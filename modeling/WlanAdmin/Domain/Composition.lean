import WlanAdmin.Domain.PropertyTable
import Std.Data.HashMap

/-!
# WlanAdmin.Domain.Composition

The composed form of a text: characters with marks are written as one wherever there is one, and
marks that do not touch stand in a fixed order.
-/

namespace WlanAdmin.Domain

/-- The class of a character that joins the one before it; zero for all others. -/
def combiningTable : CodeTable Nat := .ofRows combiningRows

def combiningClass (c : Char) : Nat := (combiningTable.get? c.toNat).getD 0

/-- Characters with the two that they are also written as. -/
@[irreducible] def pairs : List (Nat × Nat × Nat) := pairRows.flatten

def pairTable : CodeTable (Nat × Nat) :=
  (pairs.map fun (code, pair) => ⟨code, code, pair⟩).toArray

@[irreducible] def composite : Std.HashMap (Nat × Nat) Nat :=
  .ofList (pairs.map fun (code, pair) => (pair, code))

/-! ## Syllables of Hangul, which are composed by rule -/

def firstSyllable : Nat := 0xAC00
def firstLead : Nat := 0x1100
def firstVowel : Nat := 0x1161
/-- One before the first, so that zero stands for none. -/
def firstTail : Nat := 0x11A7

def leads : Nat := 19
def vowels : Nat := 21
def tails : Nat := 28

/-- The parts of a syllable. -/
def splitSyllable (code : Nat) : Option (List Nat) :=
  if firstSyllable ≤ code ∧ code < firstSyllable + leads * vowels * tails then
    let index := code - firstSyllable
    let tail := index % tails
    some ([firstLead + index / (vowels * tails), firstVowel + index / tails % vowels] ++
      if tail = 0 then [] else [firstTail + tail])
  else none

/-- The syllable of a lead and a vowel, or of such a syllable and a tail. -/
def joinSyllable (a b : Nat) : Option Nat :=
  if firstLead ≤ a ∧ a < firstLead + leads ∧ firstVowel ≤ b ∧ b < firstVowel + vowels then
    some (firstSyllable + ((a - firstLead) * vowels + (b - firstVowel)) * tails)
  else if firstSyllable ≤ a ∧ a < firstSyllable + leads * vowels * tails ∧
      (a - firstSyllable) % tails = 0 ∧ firstTail < b ∧ b < firstTail + tails then
    some (a + (b - firstTail))
  else none

/-! ## Decomposing, ordering, composing -/

/-- The most pairs in which a character is nested. -/
def pairDepth : Nat := 4

/-- The characters that a code point is made of, to a depth. -/
def decompose : (depth : Nat) → Nat → List Nat
  | 0, code => [code]
  | depth + 1, code =>
    match splitSyllable code with
    | some parts => parts
    | none =>
      match pairTable.get? code with
      | some (first, second) => decompose depth first ++ decompose depth second
      | none => [code]

/-- Puts marks that follow each other in the order of their classes; `run` holds those met, the
last first. -/
def orderMarks : (run : List Char) → List Char → List Char
  | run, [] => sorted run
  | run, c :: rest =>
    if combiningClass c = 0 then sorted run ++ c :: orderMarks [] rest
    else orderMarks (c :: run) rest
where
  sorted (run : List Char) : List Char :=
    run.reverse.mergeSort fun a b => combiningClass a ≤ combiningClass b

/-- The character that two are also written as. -/
def compose? (a b : Char) : Option Char :=
  match joinSyllable a.toNat b.toNat with
  | some code => some (Char.ofNat code)
  | none => (composite[(a.toNat, b.toNat)]?).map Char.ofNat

/-- Whether a character is not cut off from the base by the marks before it, the last first. -/
def reaches (marks : List Char) (c : Char) : Bool :=
  match marks with
  | [] => true
  | mark :: _ => combiningClass mark < combiningClass c

/-- Joins the characters after a base to it where they can be joined. `marks` holds those that
could not, the last first; a mark of the same class as one of them is cut off from the base. -/
def composeAfter : (base : Char) → (marks : List Char) → List Char → List Char
  | base, marks, [] => base :: marks.reverse
  | base, marks, c :: rest =>
    match if reaches marks c then compose? base c else none with
    | some joined => composeAfter joined marks rest
    | none =>
      if combiningClass c = 0 then base :: marks.reverse ++ composeAfter c [] rest
      else composeAfter base (c :: marks) rest

/-- Composes a text whose marks are in order. Marks at its start have no base. -/
def composeOrdered : List Char → List Char
  | [] => []
  | c :: rest => if combiningClass c = 0 then composeAfter c [] rest else c :: composeOrdered rest

/-- The composed form of a text. -/
def composed (text : List Char) : List Char :=
  composeOrdered (orderMarks [] (text.flatMap fun c =>
    (decompose pairDepth c.toNat).map Char.ofNat))

end WlanAdmin.Domain
