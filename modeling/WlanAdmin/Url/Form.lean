import WlanAdmin.Url.Percent

/-!
# WlanAdmin.Url.Form

Form bodies: `name=value` pairs with ampersands between them. Letters, digits and `*-._` stand for
themselves, a blank is a plus sign, and all else is percent-encoded.
-/

namespace WlanAdmin.Url

/-- Octets that stand for themselves in a form. -/
def isFormByte (b : UInt8) : Bool :=
  (0x30 ≤ b && b ≤ 0x39) || (0x41 ≤ b && b ≤ 0x5A) || (0x61 ≤ b && b ≤ 0x7A) ||
    b == 0x2A || b == 0x2D || b == 0x2E || b == 0x5F

def formByte (b : UInt8) : List Char :=
  if isFormByte b then [Char.ofNat b.toNat]
  else if b == 0x20 then ['+']
  else percentByte b

/-- A name or value in a form. -/
def formText (text : String) : List Char := (utf8 text).flatMap formByte

/-- A form with its pairs in order. -/
def writeForm (pairs : List (String × String)) : List Char :=
  List.intercalate ['&'] (pairs.map fun pair => formText pair.1 ++ '=' :: formText pair.2)

end WlanAdmin.Url
