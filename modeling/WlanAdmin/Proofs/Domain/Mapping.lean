import WlanAdmin.Proofs.Domain.CodeTable

/-!
# WlanAdmin.Proofs.Domain.Mapping

What the mapping of domain names does to ASCII. No capital letter is ever left by it, and every
other ASCII character stays as it is.

* `mapChar_ascii` : ASCII characters stay, but for the capital letters.
* `mapChar_no_capital` : what comes out of the mapping has no capital letters.
-/

namespace WlanAdmin.Domain

theorem toNat_ofNat (code : Nat) :
    (Char.ofNat code).toNat = if code.isValidChar then code else 0 := by
  by_cases valid : code.isValidChar
  · rw [Char.ofNat, dif_pos valid, if_pos valid]
    rfl
  · rw [Char.ofNat, dif_neg valid, if_neg valid]
    rfl

/-- The code points of the letters `A` to `Z`. -/
def IsCapitalCode (code : Nat) : Prop := 0x41 ≤ code ∧ code ≤ 0x5A

instance (code : Nat) : Decidable (IsCapitalCode code) := inferInstanceAs (Decidable (_ ∧ _))

def IsCapital (c : Char) : Prop := IsCapitalCode c.toNat

instance (c : Char) : Decidable (IsCapital c) := inferInstanceAs (Decidable (IsCapitalCode _))

theorem not_isCapital_ofNat {code : Nat} (h : ¬ IsCapitalCode code) :
    ¬ IsCapital (Char.ofNat code) := by
  unfold IsCapital
  rw [toNat_ofNat]
  split
  · exact h
  · decide

/-- Whether no character of a range becomes a capital letter. -/
def CodeRange.leavesNoCapital (range : CodeRange MappingRule) : Bool :=
  match range.value with
  | .keep => range.last < 0x41 || 0x5A < range.first
  | .shift target => 0x5A < target || target + (range.last - range.first) < 0x41
  | .alternate => 0x5A < range.first
  | .become chars => chars.all fun c => c.toNat < 0x41 || 0x5A < c.toNat

theorem mappingTable_leavesNoCapital :
    mappingTable.toList.all CodeRange.leavesNoCapital = true := by decide +kernel

/-- What comes out of the mapping has no capital letters. -/
theorem mapChar_no_capital {c : Char} {out : List Char} (h : mapChar c = some out) :
    ∀ d ∈ out, ¬ IsCapital d := by
  unfold mapChar at h
  split at h
  · cases h
  · rename_i range found
    obtain ⟨mem, first, last⟩ := CodeTable.of_find? found
    have none_left := List.all_eq_true.mp mappingTable_leavesNoCapital range mem
    unfold CodeRange.leavesNoCapital at none_left
    cases rule : range.value with
    | keep =>
      simp only [rule, Bool.or_eq_true, decide_eq_true_eq, Option.some.injEq] at h none_left
      subst h
      simp only [List.mem_singleton, forall_eq, IsCapital, IsCapitalCode]
      omega
    | shift target =>
      simp only [rule, Bool.or_eq_true, decide_eq_true_eq, Option.some.injEq] at h none_left
      subst h
      simp only [List.mem_singleton, forall_eq]
      refine not_isCapital_ofNat ?_
      unfold IsCapitalCode
      omega
    | alternate =>
      simp only [rule, decide_eq_true_eq] at h none_left
      split at h <;> simp only [Option.some.injEq] at h <;> subst h <;>
        simp only [List.mem_singleton, forall_eq]
      · refine not_isCapital_ofNat ?_
        unfold IsCapitalCode
        omega
      · unfold IsCapital IsCapitalCode
        omega
    | become chars =>
      simp only [rule, List.all_eq_true, Bool.or_eq_true, decide_eq_true_eq, Option.some.injEq]
        at h none_left
      subst h
      intro d mem
      have := none_left d mem
      unfold IsCapital IsCapitalCode
      omega

/-- Whether a range holds a code point and keeps it. -/
def CodeRange.keeps (code : Nat) (range : CodeRange MappingRule) : Bool :=
  range.first ≤ code && code ≤ range.last && range.value matches .keep

theorem mappingTable_keeps_ascii : ∀ code < 0x80, ¬ IsCapitalCode code →
    mappingTable.toList.any (CodeRange.keeps code) = true := by decide +kernel

/-- ASCII characters stay, but for the capital letters. -/
theorem mapChar_ascii {c : Char} (ascii : c.toNat < 0x80) (small : ¬ IsCapital c) :
    mapChar c = some [c] := by
  obtain ⟨range, mem, keeps⟩ := List.any_eq_true.mp (mappingTable_keeps_ascii _ ascii small)
  simp only [CodeRange.keeps, Bool.and_eq_true, decide_eq_true_eq] at keeps
  obtain ⟨⟨first, last⟩, kept⟩ := keeps
  unfold mapChar
  rw [CodeTable.find?_of_mem mappingTable_increasing mem first last]
  cases rule : range.value with
  | keep => simp only [rule]
  | shift | alternate | become => simp [rule] at kept

end WlanAdmin.Domain
