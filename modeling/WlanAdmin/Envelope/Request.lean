import WlanAdmin.Envelope.Error
import WlanAdmin.Xml.Element

/-!
# WlanAdmin.Envelope.Request

Requests to the controller: an `ajax-request` element that names an action and a component and
holds the payload as it was given.

* `RequestEnvelope.build` : a request is set up call by call.
* `RequestEnvelope.encode` : the octets of a request.
-/

namespace WlanAdmin

/-- What may be done with a configuration object. -/
inductive ConfAction where
  | getConf
  | setConf
  | addObj
  | updObj
  | delObj
  deriving DecidableEq, Repr

def ConfAction.word : ConfAction → String
  | .getConf => "getconf"
  | .setConf => "setconf"
  | .addObj => "addobj"
  | .updObj => "updobj"
  | .delObj => "delobj"

/-- What a request is about. -/
inductive RequestKind where
  /-- Configuration objects. -/
  | conf (action : ConfAction)
  /-- Live statistics. -/
  | stat
  /-- Commands to a device. -/
  | command
  deriving DecidableEq, Repr

def RequestKind.action : RequestKind → String
  | .conf action => action.word
  | .stat => "getstat"
  | .command => "docmd"

structure RequestEnvelope where
  kind : RequestKind
  /-- The component that is addressed. -/
  comp : String
  /-- Whether secrets are wanted in clear text. -/
  decrypt : Bool := false
  /-- The content of the element, octet for octet. -/
  payload : Bytes := []
  deriving DecidableEq, Repr

/-- A call that sets up a request. -/
inductive BuilderCall where
  | decrypt (wanted : Bool)
  /-- A value, as it was written, or why it was not. -/
  | payload (written : Except EnvelopeError Bytes)
  /-- Octets that stand for themselves. -/
  | rawPayload (octets : Bytes)

namespace RequestEnvelope

def conf (action : ConfAction) (comp : String) : RequestEnvelope := { kind := .conf action, comp }
def stat (comp : String) : RequestEnvelope := { kind := .stat, comp }
def command (comp : String) : RequestEnvelope := { kind := .command, comp }

/-- One call replaces what an earlier one has set. -/
def apply (envelope : RequestEnvelope) : BuilderCall → Except EnvelopeError RequestEnvelope
  | .decrypt wanted => .ok { envelope with decrypt := wanted }
  | .payload written => written.map fun payload => { envelope with payload }
  | .rawPayload payload => .ok { envelope with payload }

/-- Sets up a request with calls one after the other. -/
def build (envelope : RequestEnvelope) : List BuilderCall → Except EnvelopeError RequestEnvelope
  | [] => .ok envelope
  | call :: rest => do (← envelope.apply call).build rest

/-- The attributes in their order. -/
def attributes (envelope : RequestEnvelope) : List (String × String) :=
  [("action", envelope.kind.action)] ++
    (if envelope.decrypt then [("DECRYPT_X", "true")] else []) ++
    (match envelope.kind with
      | .conf _ => []
      | .stat => [("caller", "")]
      | .command => [("xcmd", envelope.comp)]) ++
    [("updater", ""), ("comp", envelope.comp)]

/-- The octets of a request. The element is never written in the short form. -/
def encode (envelope : RequestEnvelope) : Bytes :=
  0x3C :: Xml.writeTag .full "ajax-request" envelope.attributes ++ [0x3E] ++ envelope.payload ++
    utf8 "</ajax-request>"

end RequestEnvelope
end WlanAdmin
