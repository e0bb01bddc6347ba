import WlanAdmin.Url.Parse

/-!
# WlanAdmin.Http.Message

Requests to a controller and its answers. A request carries the token of the session in a header of
its own; a body is always declared as a form, also where it is an XML envelope.
-/

namespace WlanAdmin

inductive Method where
  | get
  | post
  deriving DecidableEq, Repr

def Method.word : Method → String
  | .get => "GET"
  | .post => "POST"

/-- The content type that every request with a body declares. -/
def formContentType : String := "application/x-www-form-urlencoded"

/-- The largest answer that is read where nothing else is said: ten mebibytes. -/
def defaultBodyLimit : Nat := 10 * 0x100000

structure HttpRequest where
  method : Method
  url : Url
  csrfToken : Option String := none
  contentType : Option String := none
  body : Bytes := []
  /-- The largest body that is read of the answer. -/
  bodyLimit : Nat := defaultBodyLimit
  deriving DecidableEq, Repr

namespace HttpRequest

def get (url : Url) : HttpRequest := { method := .get, url }

def post (url : Url) (body : Bytes) : HttpRequest :=
  { method := .post, url, contentType := some formContentType, body }

def withToken (request : HttpRequest) (token : String) : HttpRequest :=
  { request with csrfToken := some token }

def withLimit (request : HttpRequest) (limit : Nat) : HttpRequest :=
  { request with bodyLimit := limit }

end HttpRequest

/-- An answer whose body has been read to its end. -/
structure HttpResponse where
  status : Nat
  /-- The URL that answered, after redirects. -/
  url : Url
  body : Bytes
  deriving DecidableEq, Repr

/-- Only a plain 200 is a success. -/
def HttpResponse.isOk (response : HttpResponse) : Bool := response.status == 200

end WlanAdmin
