import Mathlib.Data.List.Forall2

/-!
# WlanAdmin.Proofs.Text.InTurn

Things that are read in turn. All of them are read, or the first that cannot be is what the error
tells of, and nothing behind it matters.

* `FirstFault` : the first of some things that is at fault.
* `mapM_eq_ok_iff`, `exists_mapM_eq_ok_iff` : all are read.
* `mapM_eq_error_iff` : the first that cannot be read decides the error.
-/

namespace WlanAdmin

variable {α β ε : Type}

/-- The first of some things that is at fault, after others that are good, and its fault. -/
def FirstFault (good : α → Prop) (faulty : α → ε → Prop) (things : List α) (fault : ε) : Prop :=
  ∃ before bad after, things = before ++ bad :: after ∧ (∀ a ∈ before, good a) ∧ faulty bad fault

theorem not_firstFault_nil {good : α → Prop} {faulty : α → ε → Prop} {fault : ε} :
    ¬ FirstFault good faulty [] fault := by
  rintro ⟨before, bad, after, split, -⟩
  simp at split

/-- Behind what cannot be good nothing is looked at. -/
theorem firstFault_cons_of_bad {good : α → Prop} {faulty : α → ε → Prop} {a : α} (h : ¬ good a)
    (rest : List α) (fault : ε) : FirstFault good faulty (a :: rest) fault ↔ faulty a fault := by
  constructor
  · rintro ⟨before, bad, after, split, each, at_fault⟩
    cases before with
    | nil =>
      cases split
      exact at_fault
    | cons first before =>
      cases split
      exact absurd (each a List.mem_cons_self) h
  · exact fun at_fault => ⟨[], a, rest, rfl, nofun, at_fault⟩

/-- What is good is passed over. -/
theorem firstFault_cons_of_good {good : α → Prop} {faulty : α → ε → Prop} {a : α} (h : good a)
    (sound : ∀ fault, ¬ faulty a fault) (rest : List α) (fault : ε) :
    FirstFault good faulty (a :: rest) fault ↔ FirstFault good faulty rest fault := by
  constructor
  · rintro ⟨before, bad, after, split, each, at_fault⟩
    cases before with
    | nil =>
      cases split
      exact absurd at_fault (sound fault)
    | cons first before =>
      cases split
      exact ⟨before, bad, after, rfl, fun b mem => each b (List.mem_cons_of_mem _ mem), at_fault⟩
  · rintro ⟨before, bad, after, rfl, each, at_fault⟩
    exact ⟨a :: before, bad, after, rfl, List.forall_mem_cons.mpr ⟨h, each⟩, at_fault⟩

variable {f : α → Except ε β}

theorem mapM_cons_ok {a : α} {b : β} (h : f a = .ok b) (rest : List α) :
    (a :: rest).mapM f = (rest.mapM f).map (b :: ·) := by
  rw [List.mapM_cons, h]
  cases rest.mapM f <;> rfl

theorem mapM_cons_error {a : α} {fault : ε} (h : f a = .error fault) (rest : List α) :
    (a :: rest).mapM f = .error fault := by
  rw [List.mapM_cons, h]
  rfl

theorem map_eq_ok_iff {γ : Type} {g : β → γ} {made : Except ε β} {c : γ} :
    made.map g = .ok c ↔ ∃ b, made = .ok b ∧ g b = c := by
  cases made <;> simp [Except.map]

theorem map_eq_error_iff {γ : Type} {g : β → γ} {made : Except ε β} {fault : ε} :
    made.map g = .error fault ↔ made = .error fault := by
  cases made <;> simp [Except.map]

theorem mapM_eq_ok_iff {things : List α} {values : List β} :
    things.mapM f = .ok values ↔ List.Forall₂ (fun a b => f a = .ok b) things values := by
  induction things generalizing values with
  | nil =>
    rw [List.forall₂_nil_left_iff]
    exact ⟨fun h => (Except.ok.inj h).symm, fun h => h ▸ rfl⟩
  | cons a rest ih =>
    rw [List.forall₂_cons_left_iff]
    cases read : f a with
    | error fault =>
      rw [mapM_cons_error read]
      exact ⟨nofun, nofun⟩
    | ok b =>
      rw [mapM_cons_ok read, map_eq_ok_iff]
      constructor
      · rintro ⟨others, whole, rfl⟩
        exact ⟨b, others, rfl, ih.mp whole, rfl⟩
      · rintro ⟨_, others, same, each, rfl⟩
        cases same
        exact ⟨others, ih.mpr each, rfl⟩

/-- Each of some things is related to something if all are, one by one. -/
theorem exists_forall₂_iff {R : α → β → Prop} {things : List α} :
    (∃ values, List.Forall₂ R things values) ↔ ∀ a ∈ things, ∃ b, R a b := by
  induction things with
  | nil => exact ⟨fun _ => nofun, fun _ => ⟨[], .nil⟩⟩
  | cons a rest ih =>
    rw [List.forall_mem_cons, ← ih]
    constructor
    · rintro ⟨_, first | ⟨first, each⟩⟩
      exact ⟨⟨_, first⟩, _, each⟩
    · rintro ⟨⟨b, first⟩, others, each⟩
      exact ⟨b :: others, .cons first each⟩

theorem exists_mapM_eq_ok_iff {things : List α} :
    (∃ values, things.mapM f = .ok values) ↔ ∀ a ∈ things, ∃ b, f a = .ok b := by
  simp only [mapM_eq_ok_iff, exists_forall₂_iff]

theorem mapM_eq_error_iff {things : List α} {fault : ε} :
    things.mapM f = .error fault ↔
      FirstFault (fun a => ∃ b, f a = .ok b) (fun a e => f a = .error e) things fault := by
  induction things with
  | nil => exact ⟨nofun, fun h => absurd h not_firstFault_nil⟩
  | cons a rest ih =>
    cases read : f a with
    | error other =>
      rw [mapM_cons_error read, firstFault_cons_of_bad (by simp [read]), read,
        Except.error.injEq, Except.error.injEq]
    | ok b =>
      rw [mapM_cons_ok read, map_eq_error_iff, ih,
        firstFault_cons_of_good ⟨b, read⟩ (by simp [read])]

end WlanAdmin
