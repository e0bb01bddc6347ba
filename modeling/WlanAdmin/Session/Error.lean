import WlanAdmin.Http.Error
import WlanAdmin.Text.Quoted

/-!
# WlanAdmin.Session.Error

Why a login, or a request that needs one, failed.
-/

namespace WlanAdmin

/-- What is wrong with a page that should show the outcome of a login. -/
inductive PageFault where
  | noScript
  | noToken
  deriving DecidableEq, Repr

def PageFault.message : PageFault → String
  | .noScript => "no script in login response"
  | .noToken => "login response carried no CSRF token"

inductive SessionError where
  /-- The controller refused the credentials, for a reason. -/
  | rejected (reason : String)
  | badResponse (fault : PageFault)
  | transport (error : TransportError)
  deriving DecidableEq, Repr

def SessionError.message? : SessionError → Option String
  | .rejected reason => some ("login rejected: " ++ quoted reason)
  | .badResponse fault => some ("login failed: " ++ fault.message)
  | .transport error => error.message?

end WlanAdmin
