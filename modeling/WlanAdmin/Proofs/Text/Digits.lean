import WlanAdmin.Text.Digits

/-!
# WlanAdmin.Proofs.Text.Digits

Texts that are read piece by piece, and the digits of numbers.

* `readBase_toDigits` : the digits of a number are read as that number.
* `mapM_some`, `exists_of_mapM` : pieces that are all read.
* `splitOn_map` : splitting a text whose separators stay where they are.
* `flatMap_intercalate` : what is made of pieces that are joined.
-/

namespace WlanAdmin

/-- What can be tried on all ASCII characters. -/
theorem forall_ascii {P : Char → Prop} (h : ∀ n < 0x80, P (Char.ofNat n)) :
    ∀ c : Char, c.toNat < 0x80 → P c :=
  fun c ascii => Char.ofNat_toNat c ▸ h c.toNat ascii

/-- What can be tried on each of a few. -/
theorem forall_mem_of_all {α : Type} {P : α → Prop} [DecidablePred P] {xs : List α}
    (h : (xs.all fun x => decide (P x)) = true) : ∀ x ∈ xs, P x :=
  fun x mem => of_decide_eq_true (List.all_eq_true.mp h x mem)

/-! ## Pieces -/

section Pieces

variable {α β : Type}

theorem mapM_some {f : α → Option β} {g : α → β} {l : List α} (h : ∀ a ∈ l, f a = some (g a)) :
    l.mapM f = some (l.map g) := by
  induction l with
  | nil => rfl
  | cons a l ih =>
    obtain ⟨of_a, h⟩ := List.forall_mem_cons.mp h
    rw [List.mapM_cons, of_a, ih h]
    rfl

theorem exists_of_mapM {f : α → Option β} {l : List α} {out : List β} (h : l.mapM f = some out) :
    out.length = l.length ∧ ∀ b ∈ out, ∃ a ∈ l, f a = some b := by
  induction l generalizing out with
  | nil =>
    cases h
    exact ⟨rfl, nofun⟩
  | cons a l ih =>
    rw [List.mapM_cons] at h
    obtain ⟨first, of_a, h⟩ := Option.bind_eq_some_iff.mp h
    obtain ⟨rest, of_l, h⟩ := Option.bind_eq_some_iff.mp h
    cases h
    obtain ⟨length, each⟩ := ih of_l
    refine ⟨congrArg (· + 1) length, List.forall_mem_cons.mpr
      ⟨⟨a, List.mem_cons_self, of_a⟩, fun b mem => ?_⟩⟩
    obtain ⟨a', inside, found⟩ := each b mem
    exact ⟨a', List.mem_cons_of_mem _ inside, found⟩

/-- Splitting a text whose separators stay where they are. -/
theorem splitOn_map {f : Char → Char} {stop : Char} (h : ∀ c, f c = stop ↔ c = stop)
    (text : List Char) : (text.map f).splitOn stop = (text.splitOn stop).map (List.map f) := by
  induction text with
  | nil => rfl
  | cons c text ih =>
    rw [List.map_cons, List.splitOn_cons_eq_if_modifyHead, List.splitOn_cons_eq_if_modifyHead, ih]
    by_cases same : c = stop
    · rw [if_pos (beq_iff_eq.mpr ((h c).mpr same)), if_pos (beq_iff_eq.mpr same)]
      rfl
    · rw [if_neg fun eq => same ((h c).mp (eq_of_beq eq)), if_neg fun eq => same (eq_of_beq eq)]
      cases text.splitOn stop <;> rfl

/-- The pieces of a text have its characters, and not the separator. -/
theorem of_mem_splitOn {stop : Char} {text piece : List Char} (h : piece ∈ text.splitOn stop) :
    stop ∉ piece ∧ ∀ c ∈ piece, c ∈ text := by
  induction n : text.length using Nat.strongRecOn generalizing text with
  | ind n ih =>
    by_cases mem : stop ∈ text
    · obtain ⟨front, rest, rfl, absent⟩ := List.eq_append_cons_of_mem mem
      rw [List.splitOn_append_cons_self_of_not_mem absent] at h
      rcases List.mem_cons.mp h with rfl | h
      · exact ⟨absent, fun c mem => List.mem_append_left _ mem⟩
      · obtain ⟨absent, inside⟩ := ih rest.length (by simp [← n]; omega) h rfl
        exact ⟨absent, fun c mem => List.mem_append_right _ (List.mem_cons_of_mem _ (inside c mem))⟩
    · rw [List.splitOn_eq_singleton mem] at h
      rw [List.mem_singleton.mp h]
      exact ⟨mem, fun c mem => mem⟩

theorem mem_intercalate {sep c : α} {pieces : List (List α)} (mem : c ∈ [sep].intercalate pieces) :
    c = sep ∨ ∃ piece ∈ pieces, c ∈ piece := by
  induction pieces with
  | nil => cases mem
  | cons piece pieces ih =>
    cases pieces with
    | nil => exact .inr ⟨piece, List.mem_cons_self, by simpa using mem⟩
    | cons next pieces =>
      rw [List.intercalate_cons_cons, List.mem_append, List.mem_append, List.mem_singleton] at mem
      rcases mem with (mem | same) | mem
      · exact .inr ⟨piece, List.mem_cons_self, mem⟩
      · exact .inl same
      · exact (ih mem).imp_right fun ⟨other, inside, mem⟩ =>
          ⟨other, List.mem_cons_of_mem _ inside, mem⟩

theorem flatMap_intercalate (f : α → List β) (sep : α) (pieces : List (List α)) :
    ([sep].intercalate pieces).flatMap f =
      (f sep).intercalate (pieces.map (List.flatMap f)) := by
  induction pieces with
  | nil => rfl
  | cons piece rest ih =>
    cases rest with
    | nil => simp
    | cons next rest =>
      rw [List.map_cons, List.map_cons, List.intercalate_cons_cons, List.intercalate_cons_cons,
        List.flatMap_append, List.flatMap_append, ih, List.flatMap_singleton, List.map_cons]

theorem map_intercalate (f : α → β) (sep : α) (pieces : List (List α)) :
    ([sep].intercalate pieces).map f = [f sep].intercalate (pieces.map (List.map f)) := by
  have mapped : List.flatMap (fun a => [f a]) = List.map f :=
    funext fun _ => List.map_eq_flatMap.symm
  rw [← mapped, flatMap_intercalate]

theorem dropWhile_eq_self {p : α → Bool} {text : List α} (h : ∀ c ∈ text.head?, p c = false) :
    text.dropWhile p = text := by
  cases text with
  | nil => rfl
  | cons c text => exact List.dropWhile_cons_of_neg (by simp [h c rfl])

theorem takeWhile_eq_self {p : α → Bool} {text : List α} (h : ∀ c ∈ text, p c = true) :
    text.takeWhile p = text := by
  have := @List.takeWhile_append_of_pos α p text [] h
  rwa [List.append_nil, List.takeWhile_nil, List.append_nil] at this

end Pieces

/-! ## Digits -/

theorem digitValue?_digitChar : ∀ n < 16, digitValue? n.digitChar = some n := by decide

theorem readBase_append (base value : Nat) (first rest : List Char) :
    readBase base value (first ++ rest) =
      (readBase base value first).bind fun mid => readBase base mid rest := by
  induction first generalizing value with
  | nil => rfl
  | cons c first ih =>
    rw [List.cons_append, readBase, readBase]
    split
    · split
      · exact ih _
      · rfl
    · rfl

/-- The digits of a number are read as that number. The induction takes off the last digit. -/
theorem readBase_toDigits {base : Nat} (low : 1 < base) (high : base ≤ 16) (n : Nat) :
    readBase base 0 (Nat.toDigits base n) = some n := by
  have digit : ∀ value d, d < base →
      readBase base value [d.digitChar] = some (base * value + d) := by
    intro value d small
    rw [readBase, digitValue?_digitChar d (Nat.lt_of_lt_of_le small high)]
    simp [small, readBase]
  induction n using Nat.strongRecOn with
  | ind n ih =>
    by_cases small : n < base
    · rw [Nat.toDigits_of_lt_base small, digit 0 n small, Nat.mul_zero, Nat.zero_add]
    · have positive : 0 < base := Nat.zero_lt_of_lt low
      rw [Nat.toDigits_of_base_le low (Nat.le_of_not_lt small), readBase_append,
        ih (n / base) (Nat.div_lt_self (by omega) low), Option.bind_some,
        digit _ _ (Nat.mod_lt n positive), Nat.div_add_mod]

/-- The digits of a number are digits. -/
theorem exists_digit_of_mem_toDigits {base n : Nat} (low : 1 < base) {c : Char}
    (mem : c ∈ Nat.toDigits base n) : ∃ d < base, c = d.digitChar := by
  induction n using Nat.strongRecOn with
  | ind n ih =>
    by_cases small : n < base
    · rw [Nat.toDigits_of_lt_base small] at mem
      exact ⟨n, small, List.mem_singleton.mp mem⟩
    · rw [Nat.toDigits_of_base_le low (Nat.le_of_not_lt small)] at mem
      rcases List.mem_append.mp mem with mem | mem
      · exact ih (n / base) (Nat.div_lt_self (by omega) low) mem
      · exact ⟨n % base, Nat.mod_lt n (by omega), List.mem_singleton.mp mem⟩

end WlanAdmin
