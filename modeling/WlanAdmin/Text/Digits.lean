/-!
# WlanAdmin.Text.Digits

Numbers in a base of at most sixteen.
-/

namespace WlanAdmin

/-- The value of a digit up to `f`, of either case. -/
def digitValue? (c : Char) : Option Nat :=
  if '0' ≤ c ∧ c ≤ '9' then some (c.toNat - 48)
  else if 'a' ≤ c ∧ c ≤ 'f' then some (c.toNat - 87)
  else if 'A' ≤ c ∧ c ≤ 'F' then some (c.toNat - 55)
  else none

def isHexDigit (c : Char) : Bool := (digitValue? c).isSome

/-- The number that digits of a base spell, after those that spell `n`. -/
def readBase (base : Nat) : Nat → List Char → Option Nat
  | n, [] => some n
  | n, c :: rest =>
    match digitValue? c with
    | some digit => if digit < base then readBase base (base * n + digit) rest else none
    | none => none

end WlanAdmin
