/-!
# WlanAdmin.Text.Bytes

Documents, bodies and URLs travel as octets; a text is the octets of its UTF-8 form.

* `String.utf8`   : the octets of a text.
* `Bytes.text?`   : the text that octets spell, if they are valid UTF-8.
* `text?_utf8`    : reading the octets of a text gives the text back.
-/

namespace WlanAdmin

/-- A sequence of octets. -/
abbrev Bytes := List UInt8

/-- The UTF-8 octets of a text. -/
def utf8 (text : String) : Bytes := text.toUTF8.data.toList

/-- The text that the octets spell; `none` where they are not valid UTF-8. -/
def text? (octets : Bytes) : Option String := String.fromUTF8? ⟨octets.toArray⟩

/-- The octets of one character. -/
def utf8Char (c : Char) : Bytes := String.utf8EncodeChar c

theorem text?_utf8 (text : String) : text? (utf8 text) = some text := by
  simp [text?, utf8, String.fromUTF8?, String.toUTF8, text.isValidUTF8, String.fromUTF8]

/-- The ASCII letters `A` to `Z` in lower case; every other octet stands. -/
def lowerByte (b : UInt8) : UInt8 := if 0x41 ≤ b && b ≤ 0x5A then b + 0x20 else b

/-- The digits `0` to `9` and the letters `a` to `f` of either case. -/
def isHexByte (b : UInt8) : Bool :=
  (0x30 ≤ b && b ≤ 0x39) || (0x41 ≤ b && b ≤ 0x46) || (0x61 ≤ b && b ≤ 0x66)

/-- The value of a hexadecimal digit; digits of either case are read. -/
def hexByteValue (b : UInt8) : Nat :=
  if b ≤ 0x39 then b.toNat - 0x30
  else if b ≤ 0x46 then b.toNat - 0x37
  else b.toNat - 0x57

/-- The digit of a number below sixteen, in lower case. -/
def lowerHexDigit (n : Nat) : Char := Nat.digitChar n

end WlanAdmin
