import WlanAdmin.Client.Error
import WlanAdmin.Envelope.Request
import WlanAdmin.Envelope.StatResponse
import WlanAdmin.Envelope.WellFormed
import WlanAdmin.Session.Basic

/-!
# WlanAdmin.Client.Call

The calls of a client: what each asks of the session, and how it reads the body of the answer. A
body is only there if the status was 200.

* `Call.conf`, `Call.stat`, `Call.command`, `Call.get` : the four kinds of calls.
* `Call.finish` : what a call gives, from the outcome of its operation.
-/

namespace WlanAdmin

/-- Where configuration requests go. -/
def confPath : String := "/admin/_conf.jsp"

/-- Where requests for statistics, and commands, go. -/
def cmdStatPath : String := "/admin/_cmdstat.jsp"

/-- Where a request goes. -/
def RequestKind.path : RequestKind → String
  | .conf _ => confPath
  | .stat | .command => cmdStatPath

/-- An operation that sends the request of an envelope. -/
def RequestEnvelope.goal (envelope : RequestEnvelope) : Goal :=
  .post envelope.kind.path envelope.encode

/-- The body that an operation gave, if it gives one. -/
def Gain.octets : Gain → Bytes
  | .body bytes => bytes
  | .response answer => answer.body
  | .login _ | .token _ => []

structure Call (α : Type) where
  goal : Goal
  /-- What the body of the answer says. -/
  interpret : Bytes → Except ClientError α

namespace Call

variable {α : Type}

/-- What a call gives, from the outcome of its operation. -/
def finish (call : Call α) : Outcome → Except ClientError α
  | .error error => .error (.ofSession error)
  | .ok gain => call.interpret gain.octets

/-- Reads a body, with failures of its own kind. -/
def decoding (read : Bytes → Except DecodeError α) (body : Bytes) : Except ClientError α :=
  match read body with
  | .ok value => .ok value
  | .error error => .error (.decode error)

/-- The response in a body. An error that the controller reports comes before its payload. -/
def readConf (body : Bytes) : Except ClientError ConfResponse :=
  match ResponseEnvelope.decode body with
  | .error error => .error (.decode error)
  | .ok envelope =>
    match envelope.result with
    | .ok response => .ok response
    | .error xmsg => .error (.application xmsg)

/-- Asks about configuration, or changes it. -/
def conf (envelope : RequestEnvelope) : Call ConfResponse := ⟨envelope.goal, readConf⟩

/-- Asks about configuration, and reads the payload of the answer. -/
def confOf (payload : Bytes → Except DecodeError α) (envelope : RequestEnvelope) : Call α :=
  ⟨envelope.goal, fun body => do decoding payload (← readConf body).raw⟩

/-- Changes configuration. -/
def confDone (envelope : RequestEnvelope) : Call Unit :=
  ⟨envelope.goal, fun body => do discard (readConf body)⟩

/-- Asks for statistics; errors that the controller reports are left to `payload`. -/
def stat (payload : Bytes → Except DecodeError α) (envelope : RequestEnvelope) :
    Call (StatResponse α) :=
  ⟨envelope.goal, decoding (StatResponse.decode payload)⟩

/-- Asks for statistics, of which only the body matters. -/
def statOf (payload : Bytes → Except DecodeError α) (envelope : RequestEnvelope) : Call α :=
  ⟨envelope.goal, fun body => do return (← decoding (StatResponse.decode payload) body).body⟩

/-- Sends a command. Of its echo only the form is checked. -/
def command (envelope : RequestEnvelope) : Call Unit :=
  ⟨envelope.goal, decoding checkWellFormed⟩

/-- Fetches a path, reading at most so many octets. -/
def get (path : String) (limit : Nat) : Call Bytes := ⟨.get path limit, .ok⟩

end Call
end WlanAdmin
