import WlanAdmin.Html.Parse
import WlanAdmin.Http.Message
import WlanAdmin.Page.LoginPage
import WlanAdmin.Session.Context
import WlanAdmin.Session.Error
import WlanAdmin.Url.Form

/-!
# WlanAdmin.Session.Login

The request that logs a session in, and what its answer gives.
-/

namespace WlanAdmin

def loginPath : String := "/admin/login.jsp"

/-- The text of the form's button, with a no-break space. -/
def loginButton : String := "Log\u00a0in"

/-- The page that answers a login is small. -/
def loginBodyLimit : Nat := 0x100000

/-- The form that logs in. -/
def Credentials.form (credentials : Credentials) : Bytes :=
  utf8 (String.ofList (Url.writeForm [("username", credentials.username),
    ("password", credentials.password), ("ok", loginButton)]))

/-- The request that logs a session in. It carries the token of the login before, if there is
one. -/
def Context.loginRequest (scheme : Scheme) (context : Context) :
    Except TransportError HttpRequest :=
  match endpoint scheme context.host loginPath with
  | .error text => .error (.invalidUrl text)
  | .ok url => .ok
    { HttpRequest.post url context.credentials.form with
      bodyLimit := loginBodyLimit, csrfToken := context.token? }

/-- What a login gives, from the outcome that its page shows. -/
def LoginPage.result : LoginPage → Except SessionError LoginResult
  | .rejected reason => .error (.rejected reason)
  | .noScript => .error (.badResponse .noScript)
  | .script declared =>
    match declared.token with
    | some csrfToken => .ok ⟨declared.privilege, declared.version, csrfToken⟩
    | none => .error (.badResponse .noToken)

/-- What a login gives, from the page that answers it. -/
def readLogin (body : Bytes) : Except SessionError LoginResult :=
  (LoginPage.ofNodes (Html.parse (decodeReplacing body))).result

end WlanAdmin
