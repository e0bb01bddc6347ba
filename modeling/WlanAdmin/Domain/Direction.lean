import WlanAdmin.Domain.PropertyTable

/-!
# WlanAdmin.Domain.Direction

Names that run from right to left. Where a name has any character that does, each of its labels
must read the same wherever it stands: it starts with a letter, keeps to its direction, and ends
with a letter or a number.
-/

namespace WlanAdmin.Domain

def directionTable : CodeTable Direction := .ofRows directionRows

/-- Whether a mark has a width of its own. -/
def markTable : CodeTable Bool := .ofRows markRows

def isMark (c : Char) : Bool := (markTable.get? c.toNat).isSome

def direction (c : Char) : Direction :=
  match directionTable.get? c.toNat, markTable.get? c.toNat with
  | some direction, _ => direction
  | none, some false => .mark
  | none, _ => .left

/-- Whether a character makes a name one that runs from right to left. -/
def runsLeft (c : Char) : Bool :=
  [Direction.right, .arabicLetter, .arabicNumber].contains (direction c)

/-- Whether the last direction, marks aside, is one of some. -/
def endsWith (allowed : List Direction) (directions : List Direction) : Bool :=
  match directions.reverse.dropWhile (· == .mark) with
  | last :: _ => allowed.contains last
  | [] => false

/-- Whether a label may stand in a name that runs from right to left. -/
def keepsDirection (label : List Char) : Bool :=
  let directions := label.map direction
  match directions with
  | [] => true
  | .left :: _ =>
    directions.all [.left, .number, .sign, .neutral, .mark].contains &&
      endsWith [.left, .number] directions
  | .right :: _ | .arabicLetter :: _ =>
    directions.all
        [.right, .arabicLetter, .arabicNumber, .number, .sign, .neutral, .mark].contains &&
      endsWith [.right, .arabicLetter, .arabicNumber, .number] directions &&
      !(directions.contains .number && directions.contains .arabicNumber)
  | _ => false

end WlanAdmin.Domain
