import WlanAdmin.Url.Parse

/-!
# WlanAdmin.Url.Endpoint

The URLs of a controller: its scheme, the authority a session keeps, and a path.
-/

namespace WlanAdmin

/-- How a controller is reached. -/
inductive Scheme where
  | http
  | https
  deriving DecidableEq, Repr

instance : Inhabited Scheme := ⟨.https⟩

def Scheme.word : Scheme → String
  | .http => "http"
  | .https => "https"

/-- The text of an endpoint, whether or not it is a URL. -/
def endpointText (scheme : Scheme) (authority path : String) : String :=
  scheme.word ++ "://" ++ authority ++ path

/-- The URL of an endpoint, or the text that is none. -/
def endpoint (scheme : Scheme) (authority path : String) : Except String Url :=
  match Url.parse (endpointText scheme authority path) with
  | some url => .ok url
  | none => .error (endpointText scheme authority path)

end WlanAdmin
