import WlanAdmin.Envelope.Error
import WlanAdmin.Text.Replacement
import WlanAdmin.Xml.Attribute
import WlanAdmin.Xml.Matched

/-!
# WlanAdmin.Envelope.Response

Responses of the controller: an `ajax-response` with one `response` element of interest, whose
content is kept octet for octet and may hold a structured error.

* `ResponseEnvelope.decode` : the first `response` child of the root, its `type` and `id`, its
  content and the first `xmsg` at the top of that content. The root must be closed, and only
  blanks, comments and instructions may follow it.
* `ResponseEnvelope.result` : a structured error wins over any payload beside it.
-/

namespace WlanAdmin

/-- A response whose payload has not been interpreted. -/
structure ResponseEnvelope where
  kind : String
  id : String
  error : Option Xmsg
  /-- The content of the `response` element. -/
  raw : Bytes
  deriving DecidableEq, Repr

/-- A response that carries no structured error. -/
structure ConfResponse where
  kind : String
  id : String
  raw : Bytes
  deriving DecidableEq, Repr

namespace ResponseEnvelope

open Xml

/-- The lexemes after the start tag of the root. -/
def findRoot : List Lexeme → (complete : Bool) → Except DecodeError (List Lexeme)
  | [], complete => .error (if complete then .emptyDocument else .malformed)
  | .startTag body :: rest, _ =>
    if localName (tagName body) = utf8 "ajax-response" then .ok rest
    else .error (.unexpectedRoot (String.ofList (decodeReplacing (tagName body))))
  | .emptyTag body :: _, _ =>
    .error (.unexpectedRoot (String.ofList (decodeReplacing (tagName body))))
  | _ :: rest, complete => findRoot rest complete

/-- The content of an element of which `depth` descendants are open, and what follows its end tag;
`none` if the document ends before. -/
def splitElement : (depth : Nat) → List Lexeme → Option (List Lexeme × List Lexeme)
  | _, [] => none
  | depth, .startTag body :: rest =>
    (splitElement (depth + 1) rest).map fun (inner, after) => (.startTag body :: inner, after)
  | 0, .endTag _ :: rest => some ([], rest)
  | depth + 1, .endTag body :: rest =>
    (splitElement depth rest).map fun (inner, after) => (.endTag body :: inner, after)
  | depth, first :: rest =>
    (splitElement depth rest).map fun (inner, after) => (first :: inner, after)

/-- The tag of the first `response` among the children of the root, and what follows the tag.
`depth` elements are open inside the root. -/
def findResponse : (depth : Nat) → List Lexeme → (complete : Bool) →
    Except DecodeError (Lexeme × List Lexeme)
  | 0, [], complete => .error (if complete then .missingResponse else .malformed)
  | _ + 1, [], _ => .error .malformed
  | 0, .startTag body :: rest, complete =>
    if localName (tagName body) = utf8 "response" then .ok (.startTag body, rest)
    else findResponse 1 rest complete
  | 0, .emptyTag body :: rest, complete =>
    if localName (tagName body) = utf8 "response" then .ok (.emptyTag body, rest)
    else findResponse 0 rest complete
  | 0, .endTag _ :: _, _ => .error .missingResponse
  | depth + 1, .startTag _ :: rest, complete => findResponse (depth + 2) rest complete
  | depth + 1, .endTag _ :: rest, complete => findResponse depth rest complete
  | depth, _ :: rest, complete => findResponse depth rest complete

/-- The resolved value of the last attribute of a name, or the empty text. Attributes of one name
occur once, so the last is the only one. -/
def valueOf (name : String) (attrs : List (Bytes × String)) : String :=
  match attrs.find? fun attr => attr.1 = utf8 name with
  | some attr => attr.2
  | none => ""

/-- The attributes of a tag whose name is wanted, with their values resolved. The others need only
be sound. -/
def resolveAttributes (wanted : Bytes → Bool) (body : Bytes) :
    Except DecodeError (List (Bytes × String)) := do
  let attrs := tagAttributes body
  let resolved ← (attrs.all.filter fun attr => wanted attr.name).mapM fun attr =>
    match attr.text? with
    | some value => .ok (attr.name, value)
    | none => .error .malformed
  if attrs.sound then return resolved else .error .malformed

/-- The `type` and `id` of a `response` tag. -/
def responseAttributes (body : Bytes) : Except DecodeError (String × String) := do
  let attrs ← resolveAttributes (fun name => name = utf8 "type" || name = utf8 "id") body
  return (valueOf "type" attrs, valueOf "id" attrs)

/-- The structured error of an `xmsg` tag; all its attributes must be readable. -/
def xmsgOfTag (body : Bytes) : Except DecodeError Xmsg := do
  let attrs ← resolveAttributes (fun _ => true) body
  return ⟨valueOf "type" attrs, valueOf "msg" attrs, valueOf "name" attrs, valueOf "lmsg" attrs⟩

/-- The tag of the first `xmsg` at the top of some content; `depth` elements are open. -/
def findXmsgTag : (depth : Nat) → List Lexeme → (complete : Bool) →
    Except DecodeError (Option Bytes)
  | 0, [], complete => if complete then .ok none else .error .malformed
  | _ + 1, [], _ => .error .malformed
  | 0, .startTag body :: rest, complete =>
    if localName (tagName body) = utf8 "xmsg" then .ok (some body)
    else findXmsgTag 1 rest complete
  | 0, .emptyTag body :: rest, complete =>
    if localName (tagName body) = utf8 "xmsg" then .ok (some body)
    else findXmsgTag 0 rest complete
  | depth + 1, .startTag _ :: rest, complete => findXmsgTag (depth + 2) rest complete
  | depth + 1, .endTag _ :: rest, complete => findXmsgTag depth rest complete
  | depth, _ :: rest, complete => findXmsgTag depth rest complete

/-- The structured error at the top of some content, read as a document of its own. -/
def findXmsg (raw : Bytes) : Except DecodeError (Option Xmsg) := do
  let content := read raw
  match ← findXmsgTag 0 content.all content.complete with
  | none => return none
  | some body => return some (← xmsgOfTag body)

/-- What may follow the end of the root. -/
def closeDocument : List Lexeme → (complete : Bool) → Except DecodeError Unit
  | [], complete => if complete then .ok () else .error .malformed
  | .comment _ :: rest, complete => closeDocument rest complete
  | .instruction body :: rest, complete =>
    if isDeclaration body then .error .contentAfterRoot else closeDocument rest complete
  | .text content :: rest, complete =>
    if content.all fun b => isBlank b || b == 0x0C then closeDocument rest complete
    else .error .contentAfterRoot
  | _ :: _, _ => .error .contentAfterRoot

/-- Skips the remaining children of the root, of which `depth` elements are open. -/
def closeRoot : (depth : Nat) → List Lexeme → (complete : Bool) → Except DecodeError Unit
  | 0, [], complete => .error (if complete then .unclosedRoot else .malformed)
  | _ + 1, [], _ => .error .malformed
  | depth, .startTag _ :: rest, complete => closeRoot (depth + 1) rest complete
  | 0, .endTag _ :: rest, complete => closeDocument rest complete
  | depth + 1, .endTag _ :: rest, complete => closeRoot depth rest complete
  | depth, _ :: rest, complete => closeRoot depth rest complete

/-- The octets of some lexemes inside a document, `rest` being all that follows their start. They
are counted without the byte order mark and cut with it, so a document with a mark yields the
octets that stand three places before. -/
def cut (document : Bytes) (all rest inner : List Lexeme) : Bytes :=
  (document.drop ((sources all).length - (sources rest).length)).take (sources inner).length

/-- Reads a response. -/
def decode (document : Bytes) : Except DecodeError ResponseEnvelope := do
  let lexemes := read document
  let inRoot ← findRoot lexemes.all lexemes.complete
  let (tag, rest) ← findResponse 0 inRoot lexemes.complete
  match tag with
  | .startTag body =>
    let (kind, id) ← responseAttributes body
    match splitElement 0 rest with
    | none => .error .malformed
    | some (inner, after) =>
      let raw := cut document lexemes.all rest inner
      let error ← findXmsg raw
      closeRoot 0 after lexemes.complete
      return ⟨kind, id, error, raw⟩
  | .emptyTag body =>
    let (kind, id) ← responseAttributes body
    closeRoot 0 rest lexemes.complete
    return ⟨kind, id, none, []⟩
  | _ => .error .missingResponse

/-- The response without its structured error, or that error. -/
def result (envelope : ResponseEnvelope) : Except Xmsg ConfResponse :=
  match envelope.error with
  | some xmsg => .error xmsg
  | none => .ok ⟨envelope.kind, envelope.id, envelope.raw⟩

end ResponseEnvelope
end WlanAdmin
