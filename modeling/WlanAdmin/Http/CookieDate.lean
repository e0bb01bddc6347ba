import WlanAdmin.Text.Digits

/-!
# WlanAdmin.Http.CookieDate

The dates at which cookies expire. They come in many forms; the parts are told by what they look
like, and the first that fits counts.
-/

namespace WlanAdmin

structure CookieDate where
  /-- Seconds since midnight. -/
  time : Option Nat := none
  day : Option Nat := none
  month : Option Nat := none
  year : Option Nat := none
  deriving DecidableEq, Repr

namespace CookieDate

/-- Characters that separate the parts of a date. -/
def isDelimiter (c : Char) : Bool :=
  !(c.isAlphanum || c == ':' || c.toNat < 8 || (0x0A ≤ c.toNat && c.toNat < 0x20) ||
    0x7F ≤ c.toNat)

def monthNames : List String :=
  ["jan", "feb", "mar", "apr", "may", "jun", "jul", "aug", "sep", "oct", "nov", "dec"]

/-- A number of some digits at the start of a part, which no further digit follows. -/
def leadingNumber (least most : Nat) (part : List Char) : Option (Nat × List Char) :=
  let digits := part.takeWhile Char.isDigit
  if least ≤ digits.length ∧ digits.length ≤ most then
    (readBase 10 0 digits).map fun n => (n, part.dropWhile Char.isDigit)
  else none

/-- Hours, minutes and seconds. -/
def readTime (part : List Char) : Option Nat :=
  match leadingNumber 1 2 part with
  | some (hour, ':' :: rest) =>
    match leadingNumber 1 2 rest with
    | some (minute, ':' :: rest) =>
      match leadingNumber 1 2 rest with
      | some (second, _) =>
        if hour < 24 ∧ minute < 60 ∧ second < 60 then some (3600 * hour + 60 * minute + second)
        else none
      | none => none
    | _ => none
  | _ => none

/-- The number of a month, from zero. -/
def readMonth (part : List Char) : Option Nat :=
  monthNames.findIdx? fun name => name.toList == (part.take 3).map Char.toLower

/-- Adds one part to a date. -/
def addPart (date : CookieDate) (part : List Char) : CookieDate :=
  match date.time, readTime part with
  | none, some time => { date with time := some time }
  | _, _ =>
    match date.day, leadingNumber 1 2 part with
    | none, some (day, _) => { date with day := some day }
    | _, _ =>
      match date.month, readMonth part with
      | none, some month => { date with month := some month }
      | _, _ =>
        match date.year, leadingNumber 2 4 part with
        | none, some (year, _) =>
          let year := if 70 ≤ year ∧ year < 100 then year + 1900
            else if year < 70 then year + 2000 else year
          { date with year := some year }
        | _, _ => date

/-- Days from the start of 1970 to the start of a month. -/
def daysBefore (year month : Nat) : Int :=
  let leaps := fun y : Nat => (y / 4 : Int) - y / 100 + y / 400
  let isLeap := (year % 4 = 0 ∧ year % 100 ≠ 0) ∨ year % 400 = 0
  let lengths := [31, if isLeap then 29 else 28, 31, 30, 31, 30, 31, 31, 30, 31, 30]
  365 * ((year : Int) - 1970) + (leaps (year - 1) - leaps 1969) +
    (lengths.take month).foldl (· + ·) 0

/-- The parts of a text between delimiters. -/
def parts (text : List Char) : List (List Char) :=
  ((text.splitOnP isDelimiter).filter (· ≠ []))

/-- Seconds since the start of 1970. -/
def read (text : String) : Option Int :=
  match (parts text.toList).foldl addPart {} with
  | ⟨some time, some day, some month, some year⟩ =>
    if 1 ≤ day ∧ day ≤ 31 ∧ 1601 ≤ year then
      some ((daysBefore year month + day - 1) * 86400 + time)
    else none
  | _ => none

end CookieDate
end WlanAdmin
