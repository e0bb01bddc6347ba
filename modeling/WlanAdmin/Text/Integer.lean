/-!
# WlanAdmin.Text.Integer

Decimal integers of a bounded range, as the controller writes them.

* An optional `+`, or a `-` where the range has negative numbers, then one or more ASCII digits;
  any number of leading zeros, no blanks.
* The digits are read from the left. The first one that is no digit, or that takes the value out
  of the range, decides the fault.
-/

namespace WlanAdmin

/-- Why a text is no integer of a range. -/
inductive IntegerFault where
  | empty
  | badDigit
  | tooLarge
  | tooSmall
  deriving DecidableEq, Repr

/-- The wording of a fault. -/
def IntegerFault.message : IntegerFault → String
  | .empty => "cannot parse integer from empty string"
  | .badDigit => "invalid digit found in string"
  | .tooLarge => "number too large to fit in target type"
  | .tooSmall => "number too small to fit in target type"

/-- The integers from `-below` to `most`. A range without negative numbers admits no minus sign. -/
structure IntegerRange where
  below : Nat
  most : Nat
  deriving DecidableEq, Repr

namespace IntegerRange

def unsigned32 : IntegerRange := ⟨0, 0xFFFFFFFF⟩
def unsigned64 : IntegerRange := ⟨0, 0xFFFFFFFFFFFFFFFF⟩
def signed32 : IntegerRange := ⟨0x80000000, 0x7FFFFFFF⟩
def signed64 : IntegerRange := ⟨0x8000000000000000, 0x7FFFFFFFFFFFFFFF⟩

/-- Membership of the range. -/
def Contains (range : IntegerRange) (value : Int) : Prop :=
  -(range.below : Int) ≤ value ∧ value ≤ range.most

instance (range : IntegerRange) (value : Int) : Decidable (range.Contains value) :=
  inferInstanceAs (Decidable (_ ∧ _))

end IntegerRange

/-- The value of an ASCII digit. -/
def decimalDigit? (c : Char) : Option Nat :=
  if '0' ≤ c ∧ c ≤ '9' then some (c.toNat - '0'.toNat) else none

/-- Appends digits to a number while it stays within `limit`. -/
def readDigits (limit : Nat) (overflow : IntegerFault) :
    Nat → List Char → Except IntegerFault Nat
  | value, [] => .ok value
  | value, c :: rest =>
    match decimalDigit? c with
    | none => .error .badDigit
    | some digit =>
      if 10 * value + digit ≤ limit then readDigits limit overflow (10 * value + digit) rest
      else .error overflow

/-- Digits without a sign; there must be one. -/
def readMagnitude (limit : Nat) (overflow : IntegerFault) :
    List Char → Except IntegerFault Nat
  | [] => .error .badDigit
  | digits => readDigits limit overflow 0 digits

/-- Reads an integer of the range. -/
def IntegerRange.read (range : IntegerRange) (text : String) : Except IntegerFault Int :=
  match text.toList with
  | [] => .error .empty
  | '+' :: digits => (readMagnitude range.most .tooLarge digits).map Int.ofNat
  | '-' :: digits =>
    if range.below = 0 then .error .badDigit
    else (readMagnitude range.below .tooSmall digits).map fun n => -(n : Int)
  | digits => (readMagnitude range.most .tooLarge digits).map Int.ofNat

/-- The decimal digits of a number, with a minus sign for a negative one. -/
def writeInteger (value : Int) : String :=
  match value with
  | .ofNat n => String.ofList (Nat.toDigits 10 n)
  | .negSucc n => String.ofList ('-' :: Nat.toDigits 10 (n + 1))

end WlanAdmin
