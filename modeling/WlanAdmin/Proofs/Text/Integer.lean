import WlanAdmin.Text.Integer

/-!
# WlanAdmin.Proofs.Text.Integer

Written integers are read back by every range that contains them.

* `readDigits_toDigits` : the digits of a number within the limit.
* `IntegerRange.read_writeInteger` : an integer with its sign.
* `writeInteger_plain` : a written integer is digits and perhaps a sign, no more.
-/

namespace WlanAdmin

theorem decimalDigit?_digitChar {n : Nat} (h : n < 10) : decimalDigit? n.digitChar = some n := by
  have : ∀ n : Fin 10, decimalDigit? n.val.digitChar = some n.val := by decide
  exact this ⟨n, h⟩

theorem readDigits_append {limit : Nat} {overflow : IntegerFault} {value mid : Nat}
    {first : List Char} (h : readDigits limit overflow value first = .ok mid) (rest : List Char) :
    readDigits limit overflow value (first ++ rest) = readDigits limit overflow mid rest := by
  induction first generalizing value with
  | nil =>
    cases h
    rfl
  | cons c first ih =>
    rw [readDigits] at h
    rw [List.cons_append, readDigits]
    split at h
    · cases h
    · split at h
      · rename_i hle
        rw [if_pos hle]
        exact ih h
      · cases h

/-- The digits of a number up to the limit are read as that number. The induction takes off the
last digit. -/
theorem readDigits_toDigits {limit : Nat} (overflow : IntegerFault) {n : Nat} (h : n ≤ limit) :
    readDigits limit overflow 0 (Nat.toDigits 10 n) = .ok n := by
  induction n using Nat.strongRecOn with
  | ind n ih =>
    by_cases hn : n < 10
    · rw [Nat.toDigits_of_lt_base hn, readDigits, decimalDigit?_digitChar hn]
      simp [h, readDigits]
    · have hdigit := decimalDigit?_digitChar (Nat.mod_lt n (by omega : 10 > 0))
      have hvalue : 10 * (n / 10) + n % 10 = n := Nat.div_add_mod n 10
      have hfirst := ih (n / 10) (by omega) (by omega)
      rw [Nat.toDigits_of_base_le (by omega) (by omega), readDigits_append hfirst, readDigits,
        hdigit]
      simp [hvalue, h, readDigits]

theorem toDigits_cons (n : Nat) :
    ∃ c rest, Nat.toDigits 10 n = c :: rest ∧ c ≠ '+' ∧ c ≠ '-' := by
  obtain ⟨c, rest, h⟩ := List.exists_cons_of_ne_nil (Nat.toDigits_ne_nil (n := n) (b := 10))
  have hc : c.isDigit = true :=
    Nat.isDigit_of_mem_toDigits (by omega) (Nat.le_refl 10) (h ▸ List.mem_cons_self)
  refine ⟨c, rest, h, ?_, ?_⟩ <;> rintro rfl <;> cases hc

theorem readMagnitude_toDigits {limit : Nat} (overflow : IntegerFault) {n : Nat} (h : n ≤ limit) :
    readMagnitude limit overflow (Nat.toDigits 10 n) = .ok n := by
  obtain ⟨c, rest, hd, -, -⟩ := toDigits_cons n
  have := readDigits_toDigits overflow h
  rw [hd] at this ⊢
  exact this

theorem IntegerRange.read_writeInteger {range : IntegerRange} {value : Int}
    (h : range.Contains value) : range.read (writeInteger value) = .ok value := by
  obtain ⟨low, high⟩ := h
  cases value with
  | ofNat n =>
    have hn : n ≤ range.most := Int.ofNat_le.mp high
    obtain ⟨c, rest, hd, hplus, hminus⟩ := toDigits_cons n
    have hread := readMagnitude_toDigits .tooLarge hn
    rw [IntegerRange.read, writeInteger, String.toList_ofList, hd]
    rw [hd] at hread
    split
    · rename_i heq; cases heq
    · rename_i heq; cases heq; exact absurd rfl hplus
    · rename_i heq; cases heq; exact absurd rfl hminus
    · rw [hread]
      rfl
  | negSucc n =>
    have hn : n + 1 ≤ range.below := by omega
    have hbelow : range.below ≠ 0 := by omega
    rw [IntegerRange.read, writeInteger, String.toList_ofList]
    simp only [if_neg hbelow, readMagnitude_toDigits .tooSmall hn]
    rfl

/-- The characters of written integers. -/
theorem writeInteger_plain (value : Int) :
    ∀ c ∈ (writeInteger value).toList, c.isDigit = true ∨ c = '-' := by
  have digits : ∀ n, ∀ c ∈ Nat.toDigits 10 n, c.isDigit = true := fun n c hc =>
    Nat.isDigit_of_mem_toDigits (by omega) (Nat.le_refl 10) hc
  cases value with
  | ofNat n =>
    rw [writeInteger, String.toList_ofList]
    exact fun c hc => .inl (digits n c hc)
  | negSucc n =>
    rw [writeInteger, String.toList_ofList]
    intro c hc
    rcases List.mem_cons.mp hc with rfl | hc
    · exact .inr rfl
    · exact .inl (digits (n + 1) c hc)

end WlanAdmin
