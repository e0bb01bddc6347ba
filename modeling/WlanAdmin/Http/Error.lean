/-!
# WlanAdmin.Http.Error

Why a request got no usable answer.
-/

namespace WlanAdmin

inductive TransportError where
  /-- An answer to the request for a path, with a status other than 200. -/
  | status (code : Nat) (path : String)
  /-- The connection failed or broke off. -/
  | http
  | redirectLimit (limit : Nat)
  | bodyTooLarge (limit : Nat)
  /-- The text of an endpoint that is no URL. -/
  | invalidUrl (text : String)
  | cancelled
  | timedOut
  deriving DecidableEq, Repr

/-- The wording of an error; connections and URLs fail in words of their own. -/
def TransportError.message? : TransportError → Option String
  | .status code path => some s!"request to {path} returned status code {code}"
  | .redirectLimit limit => some s!"stopped after {limit} redirects"
  | .bodyTooLarge limit => some s!"response body exceeds {limit} bytes"
  | .cancelled => some "operation cancelled"
  | .timedOut => some "deadline elapsed"
  | .http | .invalidUrl _ => none

end WlanAdmin
