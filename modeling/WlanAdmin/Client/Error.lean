import WlanAdmin.Envelope.Error
import WlanAdmin.Session.Error

/-!
# WlanAdmin.Client.Error

Why an operation of a client failed. Failures are told apart by kind, wherever they arose: a login
that was refused, a controller that cannot be reached or does not keep to the protocol, and an error
that the controller reports.
-/

namespace WlanAdmin

/-- How a controller breaks the protocol. -/
inductive ProtocolFault where
  /-- Its redirects do not end. -/
  | redirectLimit (limit : Nat)
  /-- The page that answers a login cannot be read. -/
  | page (fault : PageFault)
  deriving DecidableEq, Repr

def ProtocolFault.message : ProtocolFault → String
  | .redirectLimit limit => ((TransportError.redirectLimit limit).message?).getD ""
  | .page fault => fault.message

inductive ClientError where
  | transport (error : TransportError)
  | decode (error : DecodeError)
  | application (xmsg : Xmsg)
  /-- The credentials were refused, for a reason. -/
  | auth (reason : String)
  | format (error : FormatError)
  | protocol (fault : ProtocolFault)
  deriving DecidableEq, Repr

namespace ClientError

def message? : ClientError → Option String
  | transport error => error.message?
  | decode error => (error.message?).map ("decode error: " ++ ·)
  | application xmsg => some xmsg.message
  | auth reason => some ("authentication failed: " ++ reason)
  | format error => some error.message
  | protocol fault => some ("protocol error: " ++ fault.message)

/-- The kind of a failed request. -/
def ofTransport : TransportError → ClientError
  | .redirectLimit limit => .protocol (.redirectLimit limit)
  | error => .transport error

/-- The kind of a failed login. -/
def ofSession : SessionError → ClientError
  | .rejected reason => .auth reason
  | .badResponse fault => .protocol (.page fault)
  | .transport error => ofTransport error

end ClientError
end WlanAdmin
