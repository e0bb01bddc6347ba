import WlanAdmin.Proofs.Text.InTurn
import WlanAdmin.Proofs.Text.Integer
import WlanAdmin.Proofs.Text.Numeral

/-!
# WlanAdmin.Proofs.Text.Decimal

Integers of a range as a grammar: a decimal numeral with or without a sign, in the range.

* `IsInteger`                : the texts that spell an integer of a range, and which.
* `readDigits_ok_iff`        : digits are appended while the number stays within the limit.
* `Signed`, `Signed.read_eq` : the sign of a text and the digits behind it.
* `IntegerRange.read_ok_iff` : what is read as an integer of a range.
-/

namespace WlanAdmin

/-- The texts of the integers of a range. Ranges without negative numbers have no minus sign. -/
inductive IsInteger (range : IntegerRange) : List Char → Int → Prop where
  | plain {digits : List Char} {n : Nat} : Numeral 10 digits n → n ≤ range.most →
      IsInteger range digits n
  | plus {digits : List Char} {n : Nat} : Numeral 10 digits n → n ≤ range.most →
      IsInteger range ('+' :: digits) n
  | minus {digits : List Char} {n : Nat} : range.below ≠ 0 → Numeral 10 digits n →
      n ≤ range.below → IsInteger range ('-' :: digits) (-n)

theorem IsInteger.contains {range : IntegerRange} {element : List Char} {value : Int}
    (h : IsInteger range element value) : range.Contains value := by
  rw [IntegerRange.Contains]
  cases h <;> omega

/-! ## Digits -/

theorem decimalDigit?_eq_filter (c : Char) :
    decimalDigit? c = (digitValue? c).filter (· < 10) := by
  have order (c d : Char) : c ≤ d ↔ c.toNat ≤ d.toNat := Iff.rfl
  unfold decimalDigit? digitValue?
  simp only [order, Char.reduceToNat]
  split
  · rw [Option.filter_some, if_pos (by simp; omega)]
  · split
    · rw [Option.filter_some, if_neg (by simp; omega)]
    · split
      · rw [Option.filter_some, if_neg (by simp; omega)]
      · rfl

/-- A number does not get smaller by further digits. -/
theorem le_of_readBase {base n m : Nat} (positive : 0 < base) {digits : List Char}
    (h : readBase base n digits = some m) : n ≤ m := by
  induction digits generalizing n with
  | nil => exact Nat.le_of_eq (Option.some.inj h)
  | cons c rest ih =>
    rw [readBase] at h
    split at h
    · split at h
      · exact Nat.le_trans (Nat.le_add_right_of_le (Nat.le_mul_of_pos_left n positive)) (ih h)
      · cases h
    · cases h

theorem readBase_ten_cons (n : Nat) (c : Char) (rest : List Char) :
    readBase 10 n (c :: rest) =
      (decimalDigit? c).bind fun digit => readBase 10 (10 * n + digit) rest := by
  rw [readBase, decimalDigit?_eq_filter]
  cases digitValue? c with
  | none => rfl
  | some digit => by_cases small : digit < 10 <;> simp [Option.filter_some, small]

theorem readDigits_ok_iff {limit : Nat} {overflow : IntegerFault} {digits : List Char} {n m : Nat}
    (within : n ≤ limit) :
    readDigits limit overflow n digits = .ok m ↔ readBase 10 n digits = some m ∧ m ≤ limit := by
  induction digits generalizing n with
  | nil =>
    rw [readDigits, readBase, Except.ok.injEq, Option.some.injEq]
    exact ⟨fun h => ⟨h, h ▸ within⟩, And.left⟩
  | cons c rest ih =>
    rw [readDigits, readBase_ten_cons]
    cases decimalDigit? c with
    | none => simp
    | some digit =>
      simp only [Option.bind_some]
      split
      · rename_i more
        exact ih more
      · rename_i more
        constructor
        · intro rejected
          cases rejected
        · rintro ⟨read, le⟩
          exact absurd (Nat.le_trans (le_of_readBase (by decide) read) le) more

theorem readMagnitude_ok_iff {limit : Nat} {overflow : IntegerFault} {digits : List Char}
    {n : Nat} :
    readMagnitude limit overflow digits = .ok n ↔ Numeral 10 digits n ∧ n ≤ limit := by
  cases digits with
  | nil => exact ⟨nofun, fun ⟨read, _⟩ => absurd rfl read.ne_nil⟩
  | cons c rest =>
    rw [readMagnitude, readDigits_ok_iff (Nat.zero_le limit),
      readBase_eq_some_iff (by decide) (List.cons_ne_nil c rest)]
    nofun

/-! ## Signs -/

/-- A numeral starts with a digit, so that it has no sign. -/
theorem Numeral.head_isDigit {base : Nat} {digits : List Char} {n : Nat}
    (h : Numeral base digits n) :
    ∃ c value rest, digits = c :: rest ∧ IsDigit base c value := by
  induction h with
  | digit d => exact ⟨_, _, [], rfl, d⟩
  | append _ _ ih =>
    obtain ⟨c, value, rest, rfl, d⟩ := ih
    exact ⟨c, value, _, List.cons_append, d⟩

theorem not_isDigit_sign : ∀ value < 10, ¬ IsDigit 10 '+' value ∧ ¬ IsDigit 10 '-' value := by
  decide

theorem Numeral.unsigned {c : Char} {rest : List Char} {n : Nat} (h : Numeral 10 (c :: rest) n) :
    c ≠ '+' ∧ c ≠ '-' := by
  obtain ⟨_, digit, _, same, d⟩ := h.head_isDigit
  cases same
  exact ⟨fun sign => (not_isDigit_sign digit d.1).1 (sign ▸ d),
    fun sign => (not_isDigit_sign digit d.1).2 (sign ▸ d)⟩

inductive Sign where
  | positive
  | negative

namespace Sign

/-- How far the digits behind a sign may go. -/
def limit (range : IntegerRange) : Sign → Nat
  | positive => range.most
  | negative => range.below

/-- The fault of digits that go further. -/
def overflow : Sign → IntegerFault
  | positive => .tooLarge
  | negative => .tooSmall

def of : Sign → Nat → Int
  | positive, n => n
  | negative, n => -n

end Sign

/-- The sign of a text and what stands behind it. A sign that the range does not admit is none. -/
inductive Signed (range : IntegerRange) : List Char → Sign → List Char → Prop where
  | plus (digits : List Char) : Signed range ('+' :: digits) .positive digits
  | minus (digits : List Char) : range.below ≠ 0 → Signed range ('-' :: digits) .negative digits
  | plain {text : List Char} : text.head? ≠ some '+' →
      (range.below ≠ 0 → text.head? ≠ some '-') → Signed range text .positive text

theorem exists_signed (range : IntegerRange) (text : List Char) :
    ∃ sign digits, Signed range text sign digits := by
  by_cases plus : text.head? = some '+'
  · obtain ⟨digits, rfl⟩ := List.head?_eq_some_iff.mp plus
    exact ⟨_, _, .plus digits⟩
  · by_cases minus : range.below ≠ 0 ∧ text.head? = some '-'
    · obtain ⟨digits, rfl⟩ := List.head?_eq_some_iff.mp minus.2
      exact ⟨_, _, .minus digits minus.1⟩
    · exact ⟨_, _, .plain plus (not_and.mp minus)⟩

/-- Behind the sign of a text its digits are read. -/
theorem Signed.read_eq {range : IntegerRange} {text digits : List Char} {sign : Sign}
    (h : Signed range text sign digits) (nonempty : text ≠ []) :
    range.read (String.ofList text) =
      (readMagnitude (sign.limit range) sign.overflow digits).map sign.of := by
  rw [IntegerRange.read, String.toList_ofList]
  cases h with
  | plus digits => rfl
  | minus digits some =>
    simp only [if_neg some]
    show (readMagnitude range.below .tooSmall digits >>= fun n => pure (n : Int)).map _ =
      (readMagnitude range.below .tooSmall digits).map _
    cases readMagnitude range.below .tooSmall digits <;> rfl
  | plain no_plus no_minus =>
    split
    · exact absurd rfl nonempty
    · exact absurd rfl no_plus
    · rename_i digits
      -- a minus sign that is not admitted is a character that is no digit
      split
      · rfl
      · rename_i some
        exact absurd rfl (no_minus some)
    · rfl

theorem isInteger_iff {range : IntegerRange} {text digits : List Char} {sign : Sign}
    (h : Signed range text sign digits) {value : Int} :
    IsInteger range text value ↔
      ∃ n, Numeral 10 digits n ∧ n ≤ sign.limit range ∧ sign.of n = value := by
  constructor
  · intro spelled
    cases spelled with
    | plain read le =>
      cases h with
      | plus => exact absurd rfl read.unsigned.1
      | minus => exact absurd rfl read.unsigned.2
      | plain => exact ⟨_, read, le, rfl⟩
    | plus read le =>
      cases h with
      | plus => exact ⟨_, read, le, rfl⟩
      | plain no_plus _ => exact absurd rfl no_plus
    | minus some read le =>
      cases h with
      | minus => exact ⟨_, read, le, rfl⟩
      | plain _ no_minus => exact absurd rfl (no_minus some)
  · rintro ⟨n, read, le, rfl⟩
    cases h with
    | plus => exact .plus read le
    | minus _ some => exact .minus some read le
    | plain => exact .plain read le

/-- What is read as an integer of a range. -/
theorem IntegerRange.read_ok_iff {range : IntegerRange} {element : List Char} {value : Int} :
    range.read (String.ofList element) = .ok value ↔ IsInteger range element value := by
  by_cases nonempty : element = []
  · subst nonempty
    constructor
    · intro rejected
      cases rejected
    · intro spelled
      cases spelled with
      | plain read _ => exact absurd rfl read.ne_nil
  · obtain ⟨sign, digits, signed⟩ := exists_signed range element
    rw [signed.read_eq nonempty, map_eq_ok_iff, isInteger_iff signed]
    simp only [readMagnitude_ok_iff, and_assoc]

end WlanAdmin
