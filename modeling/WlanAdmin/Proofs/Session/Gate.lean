import WlanAdmin.Session.Gate

/-!
# WlanAdmin.Proofs.Session.Gate

Coming to the gate and leaving it, as long as it is in order: in which order operations do so
matters only to those that wait.

* `Tidy` : a gate in order.
* `Tidy.left`, `Tidy.leave_leave`, `Tidy.enter_leave` : who has left is not there.
* `Tidy.leave_comm`, `Tidy.enter_leave_comm` : two operations that come and go.
-/

namespace WlanAdmin

namespace Gate

/-- Whoever owns the gate does not wait for it, each waits in one place, and nobody waits for a free
gate. -/
structure Tidy (gate : Gate) : Prop where
  apart : ∀ id, gate.owner = some id → id ∉ gate.waiting
  nodup : gate.waiting.Nodup
  free : gate.owner = none → gate.waiting = []

theorem tidy_empty : Tidy {} := ⟨nofun, .nil, fun _ => rfl⟩

theorem leave_of_owner {gate : Gate} {id : TaskId} (owns : gate.owner = some id) :
    gate.leave id = ⟨gate.waiting.head?, gate.waiting.tail⟩ := if_pos owns

theorem leave_of_other {gate : Gate} {id : TaskId} (other : gate.owner ≠ some id) :
    gate.leave id = ⟨gate.owner, gate.waiting.filter (· ≠ id)⟩ := if_neg other

theorem filter_ne_of_not_mem {waiting : List TaskId} {id : TaskId} (away : id ∉ waiting) :
    waiting.filter (· ≠ id) = waiting :=
  List.filter_eq_self.mpr fun other mem => decide_eq_true fun same : other = id => away (same ▸ mem)

/-- Who is not there has nothing to leave. -/
theorem leave_of_away {gate : Gate} {id : TaskId} (other : gate.owner ≠ some id)
    (away : id ∉ gate.waiting) : gate.leave id = gate := by
  rw [leave_of_other other, filter_ne_of_not_mem away]

variable {gate : Gate} {id other : TaskId}

theorem Tidy.left (tidy : gate.Tidy) (id : TaskId) :
    (gate.leave id).owner ≠ some id ∧ id ∉ (gate.leave id).waiting := by
  by_cases owns : gate.owner = some id
  · have away := tidy.apart id owns
    rw [leave_of_owner owns]
    exact ⟨fun head => away (List.mem_of_head? head), fun mem => away (List.mem_of_mem_tail mem)⟩
  · rw [leave_of_other owns]
    exact ⟨owns, by simp⟩

theorem Tidy.leave_leave (tidy : gate.Tidy) (id : TaskId) :
    (gate.leave id).leave id = gate.leave id :=
  leave_of_away (tidy.left id).1 (tidy.left id).2

/-- Who comes and goes again leaves no trace. -/
theorem Tidy.enter_leave (tidy : gate.Tidy) (away : gate.owner ≠ some id) :
    (gate.enter id).leave id = gate.leave id := by
  cases owned : gate.owner with
  | none => simp [enter, leave, owned, tidy.free owned]
  | some first =>
    have ne : first ≠ id := fun same => away (same ▸ owned)
    simp [enter, leave, owned, ne]

/-- The owner goes, and another with it that waits or is not there. -/
theorem Tidy.leave_owner_comm (tidy : gate.Tidy) (owns : gate.owner = some id)
    (ne : other ≠ id) : (gate.leave id).leave other = (gate.leave other).leave id := by
  obtain ⟨owner, waiting⟩ := gate
  cases owns
  have nodup := tidy.nodup
  have goes (line : List TaskId) : (Gate.mk (some id) line).leave id = ⟨line.head?, line.tail⟩ :=
    leave_of_owner rfl
  have stays : (Gate.mk (some id) waiting).leave other = ⟨some id, waiting.filter (· ≠ other)⟩ :=
    leave_of_other fun same => ne (Option.some.inj same).symm
  rw [goes, stays, goes]
  cases waiting with
  | nil => rfl
  | cons first rest =>
    obtain ⟨alone, -⟩ := List.nodup_cons.mp nodup
    by_cases same : first = other
    · subst same
      rw [leave_of_owner rfl, List.filter_cons_of_neg (by simp), filter_ne_of_not_mem alone]
      rfl
    · rw [leave_of_other fun head => same (Option.some.inj head),
        List.filter_cons_of_pos (by simpa using same)]
      rfl

/-- In which order two go does not matter. -/
theorem Tidy.leave_comm (tidy : gate.Tidy) (ne : other ≠ id) :
    (gate.leave id).leave other = (gate.leave other).leave id := by
  by_cases owns : gate.owner = some id
  · exact tidy.leave_owner_comm owns ne
  · by_cases owned : gate.owner = some other
    · exact (tidy.leave_owner_comm owned (Ne.symm ne)).symm
    · rw [leave_of_other owns, leave_of_other owned, leave_of_other (by exact owned),
        leave_of_other (by exact owns)]
      simp [Bool.and_comm]

/-- Who comes before a free gate, or before one that another owns, takes the place that it would
have without an operation that is there. -/
theorem Tidy.enter_leave_comm (tidy : gate.Tidy) (ne : other ≠ id) (owned : gate.owner ≠ some id) :
    (gate.leave id).enter other = (gate.enter other).leave id := by
  rw [leave_of_other owned]
  cases found : gate.owner with
  | none => simp [enter, leave, found, tidy.free found, ne]
  | some first =>
    have apart : first ≠ id := fun same => owned (same ▸ found)
    simp [enter, leave, found, apart, ne]

theorem Tidy.enter (tidy : gate.Tidy) (other : gate.owner ≠ some id) (away : id ∉ gate.waiting) :
    (gate.enter id).Tidy := by
  cases owned : gate.owner with
  | none =>
    simp only [Gate.enter, owned, tidy.free owned]
    exact ⟨fun _ _ => List.not_mem_nil, .nil, nofun⟩
  | some first =>
    have ne : first ≠ id := fun same => other (same ▸ owned)
    simp only [Gate.enter, owned]
    refine ⟨?_, ?_, nofun⟩
    · rintro _ ⟨⟩
      simpa [ne] using tidy.apart first owned
    · refine List.nodup_append.mpr ⟨tidy.nodup, List.nodup_cons.mpr ⟨List.not_mem_nil, .nil⟩, ?_⟩
      rintro waiter mem last ends rfl
      exact away (List.mem_singleton.mp ends ▸ mem)

end Gate

end WlanAdmin
