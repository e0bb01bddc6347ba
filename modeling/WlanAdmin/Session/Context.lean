import WlanAdmin.Text.Quoted
import WlanAdmin.Url.Endpoint

/-!
# WlanAdmin.Session.Context

What a session knows: where the controller is, who logs in, and what the last login gave.

* `Context.token?` : the token of the last login.
* `Context.cachedToken` : that token, as long as the current host holds a cookie.
-/

namespace WlanAdmin

structure Credentials where
  username : String
  password : String
  deriving DecidableEq, Repr

/-- What a successful login gave. The next login replaces all of it. -/
structure LoginResult where
  privilege : Option String
  version : Option String
  csrfToken : String
  deriving DecidableEq, Repr

structure Context where
  /-- The authority of the controller; redirects move it. -/
  host : String
  credentials : Credentials
  login : Option LoginResult := none
  deriving DecidableEq, Repr

/-- Shows credentials without the password. -/
def Credentials.describe (credentials : Credentials) : String :=
  "Credentials \x7b username: " ++ quoted credentials.username ++
    ", password: " ++ quoted "<redacted>" ++ " \x7d"

namespace Context

/-- The token of the last login, unless it is empty. -/
def token? (context : Context) : Option String :=
  (context.login.map LoginResult.csrfToken).filter (· ≠ "")

/-- The token of the last login, if `holds` says that there is a cookie for the current host. -/
def cachedToken (scheme : Scheme) (holds : Url → Bool) (context : Context) : Option String :=
  match context.token?, endpoint scheme context.host "/" with
  | some token, .ok root => if holds root then some token else none
  | _, _ => none

/-- Moves a session to the authority that a redirect leads to. -/
def redirected (context : Context) (authority : String) : Context :=
  { context with host := authority }

/-- Shows a context without its password and token. -/
def describe (context : Context) : String :=
  "SessionContext \x7b host: " ++ quoted context.host ++
    ", credentials: " ++ context.credentials.describe ++
    ", logged_in: " ++ (if context.login.isSome then "true" else "false") ++ " \x7d"

end Context

/-- What a session is doing. -/
inductive SessionState where
  | unauthenticated
  /-- A login is on its way. -/
  | authenticating
  /-- A token is cached, and the current host holds a cookie. -/
  | authenticated
  deriving DecidableEq, Repr

end WlanAdmin
