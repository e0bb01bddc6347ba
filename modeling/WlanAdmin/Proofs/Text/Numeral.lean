import WlanAdmin.Proofs.Text.Digits

/-!
# WlanAdmin.Proofs.Text.Numeral

Numerals as a grammar: one or more digits of a base of at most sixteen, with as many zeros in front
as one likes.

* `IsDigit`, `Numeral`       : digits and numerals, and the numbers that they spell.
* `readBase_eq_some_iff`     : the numerals of a base are what is read as a number in it.
* `significant`              : a numeral without the zeros in front, in lower case.
* `Numeral.toDigits_eq`      : the digits that are written for a number are those that are
  significant in any numeral of it.
-/

namespace WlanAdmin

/-- A digit of a base, in lower or in upper case, and its value. -/
def IsDigit (base : Nat) (c : Char) (value : Nat) : Prop :=
  value < base ∧ (c = value.digitChar ∨ c = value.digitChar.toUpper)

instance (base : Nat) (c : Char) (value : Nat) : Decidable (IsDigit base c value) :=
  inferInstanceAs (Decidable (_ ∧ _))

/-- One or more digits of a base, and the number that they spell. -/
inductive Numeral (base : Nat) : List Char → Nat → Prop where
  | digit {c : Char} {value : Nat} : IsDigit base c value → Numeral base [c] value
  | append {digits : List Char} {n : Nat} {c : Char} {value : Nat} : Numeral base digits n →
      IsDigit base c value → Numeral base (digits ++ [c]) (base * n + value)

/-! ## Digits -/

theorem isDigit_of_digitValue? {c : Char} {value : Nat} (h : digitValue? c = some value) :
    IsDigit 16 c value := by
  have ascii : c.toNat < 0x80 := by
    have upTo (last : Char) (le : c ≤ last) : c.toNat ≤ last.toNat := le
    unfold digitValue? at h
    split at h
    · rename_i range
      exact Nat.lt_of_le_of_lt (upTo '9' range.2) (by decide)
    · split at h
      · rename_i range
        exact Nat.lt_of_le_of_lt (upTo 'f' range.2) (by decide)
      · split at h
        · rename_i range
          exact Nat.lt_of_le_of_lt (upTo 'F' range.2) (by decide)
        · cases h
  have checked := forall_ascii
    (P := fun c => ∀ value ∈ digitValue? c, IsDigit 16 c value) (by decide) c ascii
  exact checked value h

theorem digitValue?_eq_some_iff {c : Char} {value : Nat} :
    digitValue? c = some value ↔ IsDigit 16 c value := by
  refine ⟨isDigit_of_digitValue?, fun ⟨small, spelled⟩ => ?_⟩
  have upper : ∀ n < 16, digitValue? n.digitChar.toUpper = some n := by decide
  rcases spelled with rfl | rfl
  · exact digitValue?_digitChar value small
  · exact upper value small

theorem IsDigit.value {base : Nat} (high : base ≤ 16) {c : Char} {value : Nat}
    (h : IsDigit base c value) : digitValue? c = some value :=
  digitValue?_eq_some_iff.mpr ⟨Nat.lt_of_lt_of_le h.1 high, h.2⟩

/-! ## Reading -/

/-- A digit is read behind what has been read. -/
theorem readBase_digit {base : Nat} (high : base ≤ 16) {c : Char} {value : Nat}
    (h : IsDigit base c value) (n : Nat) : readBase base n [c] = some (base * n + value) := by
  simp [readBase, h.value high, h.1]

theorem Numeral.readBase_eq {base : Nat} (high : base ≤ 16) {digits : List Char} {n : Nat}
    (h : Numeral base digits n) : readBase base 0 digits = some n := by
  induction h with
  | digit d => simpa using readBase_digit high d 0
  | append _ d ih => rw [readBase_append, ih, Option.bind_some, readBase_digit high d]

/-- What is read goes on from the numeral that has been read. -/
theorem Numeral.read_on {base : Nat} {front rest : List Char} {m n : Nat}
    (h : Numeral base front m) (read : readBase base m rest = some n) :
    Numeral base (front ++ rest) n := by
  induction rest generalizing front m with
  | nil =>
    cases read
    rwa [List.append_nil]
  | cons c rest ih =>
    rw [readBase] at read
    split at read
    · rename_i value found
      split at read
      · rename_i small
        have d : IsDigit base c value := ⟨small, (isDigit_of_digitValue? found).2⟩
        simpa using ih (.append h d) read
      · cases read
    · cases read

/-- The numerals of a base are what is read as a number in it. -/
theorem readBase_eq_some_iff {base : Nat} (high : base ≤ 16) {digits : List Char}
    (nonempty : digits ≠ []) {n : Nat} :
    readBase base 0 digits = some n ↔ Numeral base digits n := by
  refine ⟨fun read => ?_, Numeral.readBase_eq high⟩
  obtain ⟨c, rest, rfl⟩ := List.exists_cons_of_ne_nil nonempty
  rw [readBase] at read
  split at read
  · rename_i value found
    split at read
    · rename_i small
      have d : IsDigit base c value := ⟨small, (isDigit_of_digitValue? found).2⟩
      rw [Nat.mul_zero, Nat.zero_add] at read
      exact Numeral.read_on (.digit d) read
    · cases read
  · cases read

theorem Numeral.ne_nil {base : Nat} {digits : List Char} {n : Nat} (h : Numeral base digits n) :
    digits ≠ [] := by
  cases h with
  | digit _ => exact List.cons_ne_nil _ _
  | append _ _ => simp

theorem Numeral.unique {base : Nat} (high : base ≤ 16) {digits : List Char} {n m : Nat}
    (h : Numeral base digits n) (h' : Numeral base digits m) : n = m :=
  Option.some.inj ((h.readBase_eq high).symm.trans (h'.readBase_eq high))

/-! ## Writing -/

/-- A numeral without the zeros in front, in lower case; at least one digit is left. -/
def significant (digits : List Char) : List Char :=
  match (digits.map Char.toLower).dropWhile (· == '0') with
  | [] => ['0']
  | first :: rest => first :: rest

theorem IsDigit.toLower {base : Nat} (high : base ≤ 16) {c : Char} {value : Nat}
    (h : IsDigit base c value) : c.toLower = value.digitChar := by
  have both : ∀ n < 16, n.digitChar.toLower = n.digitChar ∧
      n.digitChar.toUpper.toLower = n.digitChar := by decide
  obtain ⟨lower, upper⟩ := both value (Nat.lt_of_lt_of_le h.1 high)
  rcases h.2 with rfl | rfl
  · exact lower
  · exact upper

theorem digitChar_eq_zero_iff : ∀ n < 16, n.digitChar = '0' ↔ n = 0 := by decide

/-- Without the zeros in front, a numeral of zero is empty, and one of another number is as that
number is written. -/
theorem Numeral.dropWhile_eq {base : Nat} (low : 1 < base) (high : base ≤ 16) {digits : List Char}
    {n : Nat} (h : Numeral base digits n) :
    (digits.map Char.toLower).dropWhile (· == '0') =
      if n = 0 then [] else Nat.toDigits base n := by
  have single {c : Char} {value : Nat} (d : IsDigit base c value) :
      [c.toLower].dropWhile (· == '0') = if value = 0 then [] else Nat.toDigits base value := by
    have zero := digitChar_eq_zero_iff value (Nat.lt_of_lt_of_le d.1 high)
    rw [d.toLower high, Nat.toDigits_of_lt_base d.1]
    by_cases none : value = 0
    · simp [none]
    · simp [none, zero]
  induction h with
  | digit d => exact single d
  | @append digits n c value _ d ih =>
    rw [List.map_append, List.dropWhile_append, ih]
    by_cases zero : n = 0
    · simpa [zero] using single d
    · have positive : 0 < base * n := Nat.mul_pos (by omega) (Nat.pos_of_ne_zero zero)
      have above : base ≤ base * n + value :=
        Nat.le_add_right_of_le (Nat.le_mul_of_pos_right base (Nat.pos_of_ne_zero zero))
      have front : (base * n + value) / base = n := by
        rw [Nat.mul_add_div (by omega), Nat.div_eq_of_lt d.1, Nat.add_zero]
      have last : (base * n + value) % base = value := by
        rw [Nat.mul_add_mod, Nat.mod_eq_of_lt d.1]
      rw [if_neg zero, if_neg (by simp), if_neg (by omega),
        Nat.toDigits_of_base_le low above, front, last, List.map_singleton, d.toLower high]

/-- The digits that are written for a number are the significant ones of any of its numerals. -/
theorem Numeral.toDigits_eq {base : Nat} (low : 1 < base) (high : base ≤ 16) {digits : List Char}
    {n : Nat} (h : Numeral base digits n) : Nat.toDigits base n = significant digits := by
  rw [significant, h.dropWhile_eq low high]
  by_cases zero : n = 0
  · rw [zero, if_pos rfl, Nat.toDigits_of_lt_base (by omega)]
    rfl
  · obtain ⟨first, rest, written⟩ :=
      List.exists_cons_of_ne_nil (Nat.toDigits_ne_nil (n := n) (b := base))
    rw [if_neg zero, written]

end WlanAdmin
