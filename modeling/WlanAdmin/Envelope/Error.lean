import WlanAdmin.Field.Codec

/-!
# WlanAdmin.Envelope.Error

Why an envelope could not be written or read. Only causes that this library words itself have a
text; markup that is broken and payloads of another shape are told apart from them by having none.
-/

namespace WlanAdmin

/-- Why a document was not read. -/
inductive DecodeError where
  | emptyDocument
  /-- The first element is not a start tag named `ajax-response`. -/
  | unexpectedRoot (name : String)
  | missingResponse
  | unclosedRoot
  | contentAfterRoot
  | unclosedElements (count : Nat)
  /-- The markup is broken. -/
  | malformed
  /-- A field was refused by its codec. -/
  | field (error : FormatError)
  /-- The payload is not of the shape that was asked for. -/
  | mismatch
  deriving DecidableEq, Repr

/-- The wording of an error, where it has one. -/
def DecodeError.message? : DecodeError → Option String
  | .emptyDocument => some "empty document"
  | .unexpectedRoot name => some ("unexpected root element <" ++ name ++ ">")
  | .missingResponse => some "missing response element"
  | .unclosedRoot => some "unclosed <ajax-response>"
  | .contentAfterRoot => some "content after </ajax-response>"
  | .unclosedElements count =>
    some ("document ends with " ++ writeInteger count ++ " unclosed element(s)")
  | .field error => some error.message
  | .malformed | .mismatch => none

/-- A structured error that the controller sends inside a response. -/
structure Xmsg where
  /-- The machine-readable kind. -/
  kind : String := ""
  msg : String := ""
  name : String := ""
  /-- The message in the user's language. -/
  lmsg : String := ""
  deriving DecidableEq, Repr

/-- The wording of a structured error. -/
def Xmsg.message (xmsg : Xmsg) : String := "xmsg error: " ++ xmsg.msg ++ ": " ++ xmsg.lmsg

/-- Why building, writing or reading an envelope failed. -/
inductive EnvelopeError where
  /-- The payload has no written form. -/
  | encode
  | decode (error : DecodeError)
  | application (xmsg : Xmsg)
  deriving DecidableEq, Repr

end WlanAdmin
