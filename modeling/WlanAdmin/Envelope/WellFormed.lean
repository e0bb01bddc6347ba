import WlanAdmin.Envelope.Error
import WlanAdmin.Xml.Matched

/-!
# WlanAdmin.Envelope.WellFormed

The check of documents whose shape does not matter: markup that can be read to the end, at least
one element, and none left open.
-/

namespace WlanAdmin

open Xml

/-- Walks over a document. `depth` elements are open; `seen` says whether there was any. -/
def checkFrom : (depth : Nat) → (seen : Bool) → List Lexeme → (complete : Bool) →
    Except DecodeError Unit
  | depth, seen, [], complete =>
    if !complete then .error .malformed
    else if 0 < depth then .error (.unclosedElements depth)
    else if seen then .ok ()
    else .error .emptyDocument
  | depth, _, .startTag _ :: rest, complete => checkFrom (depth + 1) true rest complete
  | depth, _, .emptyTag _ :: rest, complete => checkFrom depth true rest complete
  | depth, seen, .endTag _ :: rest, complete => checkFrom (depth - 1) seen rest complete
  | depth, seen, _ :: rest, complete => checkFrom depth seen rest complete

/-- Whether a document is well formed. -/
def checkWellFormed (document : Bytes) : Except DecodeError Unit :=
  let lexemes := read document
  checkFrom 0 false lexemes.all lexemes.complete

end WlanAdmin
