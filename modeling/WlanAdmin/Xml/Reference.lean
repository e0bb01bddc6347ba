import WlanAdmin.Text.Bytes

/-!
# WlanAdmin.Xml.Reference

References to characters, in the values of attributes and in content: the five named ones and
those by number. Also the writing of values, which turns markup characters into references.
-/

namespace WlanAdmin.Xml

/-- The number that digits of a base up to sixteen spell; at least one digit is needed. -/
def referenceNumber? (base : Nat) : Bytes → Option Nat
  | [] => none
  | digits => digits.foldl (fun value b =>
      value.bind fun n =>
        if isHexByte b && hexByteValue b < base then some (base * n + hexByteValue b) else none)
      (some 0)

/-- The character of a code point; there is none for zero, for surrogates and above U+10FFFF. -/
def referenceChar? (code : Nat) : Option Char :=
  if code = 0 then none
  else if h : code.isValidChar then some (Char.ofNatAux code h)
  else none

/-- The octets that a reference stands for. -/
def resolve (name : Bytes) : Option Bytes :=
  match name with
  | 0x23 :: 0x78 :: digits => ((referenceNumber? 16 digits).bind referenceChar?).map utf8Char
  | 0x23 :: digits => ((referenceNumber? 10 digits).bind referenceChar?).map utf8Char
  | _ =>
    if name = utf8 "lt" then some [0x3C]
    else if name = utf8 "gt" then some [0x3E]
    else if name = utf8 "amp" then some [0x26]
    else if name = utf8 "apos" then some [0x27]
    else if name = utf8 "quot" then some [0x22]
    else none

/-- Resolves references. Inside one, `name` holds its name so far, last octet first. -/
def unescapeFrom : (name : Option Bytes) → Bytes → Option Bytes
  | none, [] => some []
  | some _, [] => none
  | none, b :: rest =>
    if b = 0x26 then unescapeFrom (some []) rest else (unescapeFrom none rest).map (b :: ·)
  | some name, b :: rest =>
    if b = 0x3B then
      match resolve name.reverse with
      | none => none
      | some octets => (unescapeFrom none rest).map (octets ++ ·)
    else if b = 0x26 then none
    else unescapeFrom (some (b :: name)) rest

/-- A value with its references resolved; `none` if one is broken or unknown. -/
def unescape (value : Bytes) : Option Bytes := unescapeFrom none value

/-- Which quotes are written as references. -/
inductive Escaping where
  /-- Both. -/
  | full
  /-- The double quote only. -/
  | doubleQuote
  deriving DecidableEq

/-- An octet of a written value. -/
def Escaping.byte (escaping : Escaping) (b : UInt8) : Bytes :=
  if b = 0x3C then utf8 "&lt;"
  else if b = 0x3E then utf8 "&gt;"
  else if b = 0x26 then utf8 "&amp;"
  else if b = 0x22 then utf8 "&quot;"
  else if b = 0x27 ∧ escaping = .full then utf8 "&apos;"
  else [b]

/-- A value as it is written between double quotes. -/
def Escaping.value (escaping : Escaping) (value : Bytes) : Bytes := value.flatMap escaping.byte

end WlanAdmin.Xml
