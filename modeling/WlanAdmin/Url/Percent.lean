import WlanAdmin.Text.Bytes

/-!
# WlanAdmin.Url.Percent

Octets written as a percent sign and two hexadecimal digits. Which octets are written so depends on
the part of a URL; all above ASCII are, everywhere.
-/

namespace WlanAdmin.Url

/-- The ASCII octets that a part of a URL cannot hold as they are. -/
structure PercentSet where
  contains : UInt8 → Bool

namespace PercentSet

/-- The set with some ASCII characters added. -/
def add (set : PercentSet) (chars : String) : PercentSet :=
  ⟨fun b => set.contains b || (utf8 chars).contains b⟩

def controls : PercentSet := ⟨fun b => b < 0x20 || b == 0x7F⟩
def fragment : PercentSet := controls.add " \"<>`"
def path : PercentSet := fragment.add "#?\x7b\x7d"
def userinfo : PercentSet := path.add "/:;=@[\\]^|"
def query : PercentSet := controls.add " \"#<>"
def specialQuery : PercentSet := query.add "'"

end PercentSet

/-- A digit in upper case. -/
def upperHexDigit (n : Nat) : Char := (Nat.digitChar n).toUpper

/-- An octet as a percent sign and two digits. -/
def percentByte (b : UInt8) : List Char :=
  ['%', upperHexDigit (b.toNat / 16), upperHexDigit (b.toNat % 16)]

/-- A character as the octets of a part of a URL. -/
def percentEncodeChar (set : PercentSet) (c : Char) : List Char :=
  (utf8Char c).flatMap fun b =>
    if b < 0x80 && !set.contains b then [Char.ofNat b.toNat] else percentByte b

def percentEncode (set : PercentSet) (chars : List Char) : List Char :=
  chars.flatMap (percentEncodeChar set)

/-- Octets with the percent signs that two digits follow resolved. -/
def percentDecode : Bytes → Bytes
  | 0x25 :: a :: b :: rest =>
    if isHexByte a && isHexByte b then
      UInt8.ofNat (16 * hexByteValue a + hexByteValue b) :: percentDecode rest
    else 0x25 :: percentDecode (a :: b :: rest)
  | b :: rest => b :: percentDecode rest
  | [] => []

end WlanAdmin.Url
