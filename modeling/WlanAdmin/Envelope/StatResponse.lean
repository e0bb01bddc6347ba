import WlanAdmin.Envelope.Response

/-!
# WlanAdmin.Envelope.StatResponse

Responses to statistics requests: the `response` element as a whole is the payload. A structured
error inside it is not looked for; whoever asked inspects the fields of the payload.
-/

namespace WlanAdmin

structure StatResponse (α : Type) where
  kind : String
  id : String
  body : α

/-- A `response` element without attributes around some content. -/
def wrapResponse (content : Bytes) : Bytes :=
  utf8 "<response>" ++ content ++ utf8 "</response>"

/-- Reads the envelope, and then its content with `payload`. -/
def StatResponse.decode {α : Type} (payload : Bytes → Except DecodeError α) (document : Bytes) :
    Except DecodeError (StatResponse α) := do
  let envelope ← ResponseEnvelope.decode document
  let body ← payload (wrapResponse envelope.raw)
  return ⟨envelope.kind, envelope.id, body⟩

end WlanAdmin
