import WlanAdmin.Domain.Composition
import WlanAdmin.Domain.Direction

/-!
# WlanAdmin.Domain.Joiner

The characters without a width that join letters, or keep them apart. They may stand only where
that makes a difference: after the mark that takes a letter's vowel, or, for the one that keeps
apart, between letters that would join.
-/

namespace WlanAdmin.Domain

def joiningTable : CodeTable Joining := .ofRows joiningRows

/-- Whether a letter joins the one after it. -/
def joinsAfter (c : Char) : Bool :=
  (joiningTable.get? c.toNat).any fun side => side == .after || side == .both

/-- Whether a letter joins the one before it. -/
def joinsBefore (c : Char) : Bool :=
  (joiningTable.get? c.toNat).any fun side => side == .before || side == .both

/-- Whether a character is looked through, as marks without a width are. -/
def isTransparent (c : Char) : Bool :=
  markTable.get? c.toNat == some false || joiningTable.get? c.toNat == some .through

/-- U+200C, which keeps letters apart. -/
def nonJoiner : Char := '\u200C'

/-- U+200D, which joins them. -/
def joiner : Char := '\u200D'

/-- The class of marks that take a letter's vowel. -/
def vowelKillerClass : Nat := 9

/-- Whether the joining characters of a label stand where they may. `before` holds what comes
before, the last first. -/
def joinersFit : (before : List Char) → List Char → Bool
  | _, [] => true
  | before, c :: rest =>
    let afterKiller := before.head?.any fun d => combiningClass d == vowelKillerClass
    let between := ((before.dropWhile isTransparent).head?.any joinsAfter) &&
      ((rest.dropWhile isTransparent).head?.any joinsBefore)
    (if c = joiner then afterKiller
      else if c = nonJoiner then afterKiller || between
      else true) && joinersFit (c :: before) rest

end WlanAdmin.Domain
