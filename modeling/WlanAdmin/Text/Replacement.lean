import WlanAdmin.Text.Bytes

/-!
# WlanAdmin.Text.Replacement

Decoding UTF-8 with replacement: each longest run of octets that starts a character and is then
broken off, and each octet that starts none, becomes one U+FFFD. The reader takes one octet at a
time and remembers the character it is in.
-/

namespace WlanAdmin

/-- Between characters, or inside one: the octets owed, the code point so far and the bounds of
the next octet. -/
inductive Utf8State where
  | start
  | inside (owed : Nat) (code : Nat) (low high : UInt8)

namespace Utf8State

/-- The state after a first octet; `none` where it starts no character. -/
def ofFirst (b : UInt8) : Option Utf8State :=
  if 0xC2 ≤ b && b ≤ 0xDF then some (.inside 1 (b.toNat - 0xC0) 0x80 0xBF)
  else if b == 0xE0 then some (.inside 2 0 0xA0 0xBF)
  else if b == 0xED then some (.inside 2 0xD 0x80 0x9F)
  else if 0xE1 ≤ b && b ≤ 0xEF then some (.inside 2 (b.toNat - 0xE0) 0x80 0xBF)
  else if b == 0xF0 then some (.inside 3 0 0x90 0xBF)
  else if 0xF1 ≤ b && b ≤ 0xF3 then some (.inside 3 (b.toNat - 0xF0) 0x80 0xBF)
  else if b == 0xF4 then some (.inside 3 4 0x80 0x8F)
  else none

end Utf8State

/-- U+FFFD. -/
def replacementChar : Char := '\uFFFD'

/-- A first octet: the characters it completes and the state after it. -/
def decodeFirst (b : UInt8) : List Char × Utf8State :=
  if b < 0x80 then ([Char.ofNat b.toNat], .start)
  else match Utf8State.ofFirst b with
    | some state => ([], state)
    | none => ([replacementChar], .start)

/-- One octet: the characters it completes and the state after it. -/
def decodeStep : Utf8State → UInt8 → List Char × Utf8State
  | .start, b => decodeFirst b
  | .inside owed code low high, b =>
    if low ≤ b && b ≤ high then
      let code := code * 64 + (b.toNat - 0x80)
      if owed ≤ 1 then ([Char.ofNat code], .start) else ([], .inside (owed - 1) code 0x80 0xBF)
    else
      let (chars, state) := decodeFirst b
      (replacementChar :: chars, state)

/-- The characters of the remaining octets. -/
def decodeFrom : Utf8State → Bytes → List Char
  | .start, [] => []
  | .inside .., [] => [replacementChar]
  | state, b :: rest =>
    let (chars, next) := decodeStep state b
    chars ++ decodeFrom next rest

/-- Octets as characters, with U+FFFD for what is not UTF-8. -/
def decodeReplacing (octets : Bytes) : List Char := decodeFrom .start octets

end WlanAdmin
