/-!
# WlanAdmin.Domain.Punycode

Labels of a domain name in ASCII. The ASCII characters of a label come first, and the others follow
as numbers that say where in order of code points they are put in. The numbers have digits of
varying worth, so that small ones are short.
-/

namespace WlanAdmin.Domain

/-- A digit below thirty-six: the letters, then the decimal digits. -/
def punyDigit (n : Nat) : Char :=
  if n < 26 then Char.ofNat (0x61 + n) else Char.ofNat (0x30 + (n - 26))

def punyDigitValue? (c : Char) : Option Nat :=
  if 'a' ≤ c ∧ c ≤ 'z' then some (c.toNat - 0x61)
  else if 'A' ≤ c ∧ c ≤ 'Z' then some (c.toNat - 0x41)
  else if '0' ≤ c ∧ c ≤ '9' then some (c.toNat - 0x30 + 26)
  else none

/-- The digit at a position below which a number ends. -/
def threshold (position bias : Nat) : Nat :=
  if position ≤ bias then 1 else if bias + 26 ≤ position then 26 else position - bias

theorem threshold_pos (position bias : Nat) : 0 < threshold position bias := by
  unfold threshold
  repeat' split
  all_goals omega

theorem threshold_le (position bias : Nat) : threshold position bias ≤ 26 := by
  unfold threshold
  repeat' split
  all_goals omega

/-- Scales a number down, and counts the positions that takes. -/
def scaleDown (number position : Nat) : Nat × Nat :=
  if 455 < number then scaleDown (number / 35) (position + 36) else (number, position)
termination_by number
decreasing_by exact Nat.div_lt_self (by omega) (by omega)

/-- The bias after a number, with which so many characters are placed. -/
def nextBias (number count : Nat) (isFirst : Bool) : Nat :=
  let damped := if isFirst then number / 700 else number / 2
  let (rest, position) := scaleDown (damped + damped / count) 0
  position + 36 * rest / (rest + 38)

/-- The digits of a number. -/
def writeDelta (bias position number : Nat) : List Char :=
  let t := threshold position bias
  if number < t then [punyDigit number]
  else punyDigit (t + (number - t) % (36 - t)) ::
    writeDelta bias (position + 36) ((number - t) / (36 - t))
termination_by number
decreasing_by
  have h₁ := threshold_pos position bias
  have h₂ := Nat.div_le_self (number - threshold position bias) (36 - threshold position bias)
  omega

/-- What has been written of a label. -/
structure PunyDraft where
  /-- The text so far. -/
  written : List Char := []
  delta : Nat := 0
  bias : Nat := 72
  /-- How many characters are placed. -/
  placed : Nat

/-- Passes over a character while those of one code point are written. -/
def PunyDraft.pass (ascii code : Nat) (draft : PunyDraft) (c : Char) : PunyDraft :=
  if c.toNat < code then { draft with delta := draft.delta + 1 }
  else if c.toNat = code then
    { written := draft.written ++ writeDelta draft.bias 36 draft.delta, delta := 0,
      bias := nextBias draft.delta (draft.placed + 1) (draft.placed == ascii),
      placed := draft.placed + 1 }
  else draft

/-- Writes the characters of each code point in turn; `next` is the first not looked at. -/
def writeCodes (label : List Char) (ascii : Nat) : (next : Nat) → List Nat → PunyDraft → PunyDraft
  | _, [], draft => draft
  | next, code :: rest, draft =>
    let draft := { draft with delta := draft.delta + (code - next) * (draft.placed + 1) }
    let draft := label.foldl (PunyDraft.pass ascii code) draft
    writeCodes label ascii (code + 1) rest { draft with delta := draft.delta + 1 }

/-- The ASCII form of a label. -/
def encodePunycode (label : List Char) : List Char :=
  let ascii := label.filter fun c => c.toNat < 0x80
  let codes := ((label.map Char.toNat).filter (0x80 ≤ ·)).mergeSort.eraseDups
  ascii ++ (if ascii.isEmpty then [] else ['-']) ++
    (writeCodes label ascii.length 0x80 codes { placed := ascii.length }).written

/-- What has been read of a label. -/
structure PunyReading where
  /-- The characters placed so far. -/
  label : List Char
  code : Nat := 0x80
  /-- Where the next character is put in, in the end. -/
  index : Nat := 0
  /-- The index before the number that is being read. -/
  before : Nat := 0
  worth : Nat := 1
  position : Nat := 36
  bias : Nat := 72
  isFirst : Bool := true

/-- Puts in the character that a number is for. -/
def PunyReading.place (state : PunyReading) : Option PunyReading :=
  let count := state.label.length + 1
  let code := state.code + state.index / count
  let index := state.index % count
  if code.isValidChar then
    some { label := state.label.take index ++ Char.ofNat code :: state.label.drop index, code,
           index := index + 1, before := index + 1,
           bias := nextBias (state.index - state.before) count state.isFirst, isFirst := false }
  else none

/-- Reads digits; they must end with a number. -/
def readDeltas : PunyReading → List Char → Option (List Char)
  | state, [] => if state.position = 36 then some state.label else none
  | state, c :: rest =>
    match punyDigitValue? c with
    | none => none
    | some digit =>
      let state := { state with index := state.index + digit * state.worth }
      let t := threshold state.position state.bias
      if digit < t then
        match state.place with
        | none => none
        | some state => readDeltas state rest
      else readDeltas
        { state with worth := state.worth * (36 - t), position := state.position + 36 } rest

/-- The label of an ASCII form. The last hyphen sets off the ASCII characters, unless there are
none. -/
def decodePunycode (text : List Char) : Option (List Char) :=
  let digits := (text.reverse.takeWhile (· != '-')).reverse
  let ascii := text.take (text.length - digits.length - 1)
  if digits.length < text.length ∧ ascii ≠ [] then readDeltas { label := ascii } digits
  else readDeltas { label := [] } text

end WlanAdmin.Domain
