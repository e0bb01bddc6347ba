import WlanAdmin.Domain.Composition
import WlanAdmin.Domain.Mapping

/-!
# WlanAdmin.Proofs.Domain.CodeTable

Looking up code points. In a table whose ranges increase, the search by halves finds the range that
a code point is in, and nothing else is ever found.

* `CodeTable.find?_of_mem` : the range that holds a code point is found.
* `CodeTable.of_find?` : what is found is a range of the table that holds the code point.
* `mappingTable_increasing`, `pairTable_increasing` : the tables are in order.
-/

namespace WlanAdmin.Domain

namespace CodeTable

variable {α : Type} {table : CodeTable α} {range : CodeRange α} {code : Nat}

/-- Whether ranges stand in order without meeting, from a code point on. -/
def increasesFrom : (least : Nat) → List (CodeRange α) → Bool
  | _, [] => true
  | least, range :: rest =>
    least ≤ range.first && range.first ≤ range.last && increasesFrom (range.last + 1) rest

/-- The ranges of a table stand in order and do not meet. -/
def Increasing (table : CodeTable α) : Prop := increasesFrom 0 table.toList = true

instance (table : CodeTable α) : Decidable table.Increasing :=
  inferInstanceAs (Decidable (_ = true))

theorem pairwise_of_increasesFrom {least : Nat} {ranges : List (CodeRange α)}
    (h : increasesFrom least ranges = true) :
    (∀ range ∈ ranges, least ≤ range.first ∧ range.first ≤ range.last) ∧
      ranges.Pairwise fun a b => a.last < b.first := by
  induction ranges generalizing least with
  | nil => exact ⟨nofun, .nil⟩
  | cons range rest ih =>
    simp only [increasesFrom, Bool.and_eq_true, decide_eq_true_eq] at h
    obtain ⟨⟨start, proper⟩, later⟩ := h
    obtain ⟨after, ordered⟩ := ih later
    refine ⟨fun other mem => ?_, .cons (fun other mem => (after other mem).1) ordered⟩
    rcases List.mem_cons.mp mem with rfl | mem
    · exact ⟨start, proper⟩
    · have := after other mem
      omega

theorem Increasing.before (increasing : table.Increasing) {i j : Nat} {a b : CodeRange α}
    (less : i < j) (ha : table[i]? = some a) (hb : table[j]? = some b) :
    a.first ≤ a.last ∧ a.last < b.first := by
  obtain ⟨hi, rfl⟩ := Array.getElem?_eq_some_iff.mp ha
  obtain ⟨hj, rfl⟩ := Array.getElem?_eq_some_iff.mp hb
  obtain ⟨proper, ordered⟩ := pairwise_of_increasesFrom increasing
  exact ⟨(proper _ (Array.getElem_mem_toList hi)).2,
    List.pairwise_iff_getElem.mp ordered i j hi hj less⟩

/-- The search closes in on the range that holds the code point. -/
theorem seek_eq (increasing : table.Increasing) {index : Nat}
    (at_index : table[index]? = some range) (first : range.first ≤ code)
    (last : code ≤ range.last) {low high : Nat} (above : low ≤ index) (below : index < high) :
    table.seek code low high = index := by
  fun_induction seek table code low high with
  | case1 low high wide middle starts ih =>
    obtain ⟨other, found, start⟩ := (Option.any_eq_true _ _).mp starts
    refine ih (Nat.le_of_not_lt fun before => ?_) below
    have order := increasing.before before at_index found
    have := of_decide_eq_true start
    omega
  | case2 low high wide middle later ih =>
    refine ih above (Nat.lt_of_not_le fun after => later ?_)
    rcases Nat.eq_or_lt_of_le after with here | before
    · rw [here, at_index, Option.any_some, decide_eq_true_eq]
      exact first
    · have inside : middle < table.size :=
        Nat.lt_trans before (Array.getElem?_eq_some_iff.mp at_index).1
      have found : table[middle]? = some table[middle] := Array.getElem?_eq_getElem inside
      have order := increasing.before before found at_index
      rw [found, Option.any_some, decide_eq_true_eq]
      omega
  | case3 low high narrow => omega

/-- The range that holds a code point is found. -/
theorem find?_of_mem (increasing : table.Increasing) (mem : range ∈ table.toList)
    (first : range.first ≤ code) (last : code ≤ range.last) : table.find? code = some range := by
  obtain ⟨index, inside, at_index⟩ := Array.getElem_of_mem (Array.mem_toList_iff.mp mem)
  replace at_index := (Array.getElem?_eq_getElem inside).trans (congrArg some at_index)
  rw [find?, seek_eq increasing at_index first last (Nat.zero_le _) inside, at_index]
  exact Option.filter_some_pos (by simp [first, last])

/-- What is found is a range of the table that holds the code point. -/
theorem of_find? (h : table.find? code = some range) :
    range ∈ table.toList ∧ range.first ≤ code ∧ code ≤ range.last := by
  rw [find?] at h
  obtain ⟨found, holds⟩ := Option.filter_eq_some_iff.mp h
  simp only [Bool.and_eq_true, decide_eq_true_eq] at holds
  exact ⟨Array.mem_toList_iff.mpr (Array.mem_of_getElem? found), holds⟩

end CodeTable

theorem mappingTable_increasing : mappingTable.Increasing := by decide +kernel

theorem pairTable_increasing : pairTable.Increasing := by decide +kernel

end WlanAdmin.Domain
