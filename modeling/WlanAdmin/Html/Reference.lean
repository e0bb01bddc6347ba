import WlanAdmin.Html.Entity
import WlanAdmin.Text.Replacement

/-!
# WlanAdmin.Html.Reference

References in pages: an ampersand and a name, or a number sign and a code point. What is no
reference stands for itself.
-/

namespace WlanAdmin.Html

/-- What the numbers from 0x80 to 0x9F stand for: the printed characters that old pages meant. -/
def oldCodes : List Nat := [
  0x20AC, 0x81, 0x201A, 0x192, 0x201E, 0x2026, 0x2020, 0x2021, 0x2C6, 0x2030, 0x160, 0x2039, 0x152,
  0x8D, 0x17D, 0x8F, 0x90, 0x2018, 0x2019, 0x201C, 0x201D, 0x2022, 0x2013, 0x2014, 0x2DC, 0x2122,
  0x161, 0x203A, 0x153, 0x9D, 0x17E, 0x178]

/-- The character that a number stands for. -/
def charOfNumber (n : Nat) : Char :=
  if n = 0 then replacementChar
  else if 0x80 ≤ n ∧ n ≤ 0x9F then Char.ofNat (oldCodes.getD (n - 0x80) n)
  else if n.isValidChar then Char.ofNat n
  else replacementChar

/-- A number after its lead, in a base; `lead` counts the characters before it. The result says
what it stands for and how many characters spell it. -/
def readNumber (base lead : Nat) (isDigit : Char → Bool) (text : List Char) :
    Option (List Char × Nat) :=
  let digits := text.takeWhile isDigit
  let mark := if (text.dropWhile isDigit).head? = some ';' then 1 else 0
  if digits.isEmpty then none
  else (readBase base 0 digits).map fun n => ([charOfNumber n], lead + digits.length + mark)

/-- The longest name of at most `length` characters at the start of a text. In an attribute, a name
without its semicolon counts for nothing before a letter, a digit or an equals sign. -/
def readName (inAttribute : Bool) (text : List Char) : (length : Nat) → Option (List Char × Nat)
  | 0 => none
  | n + 1 =>
    match entities[String.ofList (text.take (n + 1))]? with
    | none => readName inAttribute text n
    | some entity =>
      let after := (text.drop (n + 1)).head?
      if after = some ';' then some (entity.chars, n + 2)
      else if !entity.mayOmitSemicolon then readName inAttribute text n
      else if inAttribute && after.any (fun c => c == '=' || c.isAlphanum) then none
      else some (entity.chars, n + 1)

/-- What follows an ampersand: the characters it stands for, and how many spell it. -/
def readReference (inAttribute : Bool) (text : List Char) : Option (List Char × Nat) :=
  match text with
  | '#' :: 'x' :: rest | '#' :: 'X' :: rest => readNumber 16 2 isHexDigit rest
  | '#' :: rest => readNumber 10 1 Char.isDigit rest
  | _ =>
    let name := (text.take longestEntityName).takeWhile Char.isAlphanum
    readName inAttribute text name.length

/-- A text with its references resolved. -/
def resolve (inAttribute : Bool) : List Char → List Char
  | [] => []
  | '&' :: rest =>
    match readReference inAttribute rest with
    | some (chars, length) => chars ++ resolve inAttribute (rest.drop length)
    | none => '&' :: resolve inAttribute rest
  | c :: rest => c :: resolve inAttribute rest
termination_by text => text.length
decreasing_by all_goals simp; try omega

end WlanAdmin.Html
