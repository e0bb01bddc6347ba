import WlanAdmin.Client.Connection

/-!
# WlanAdmin.Network.Scripted

A network that answers as it is told, to try a client on. It has one reply for logins and one for
everything else, remembers which authorities hold a cookie, and can be held up: then requests wait,
and get the reply that is in force when they go on.
-/

namespace WlanAdmin

structure Reply where
  body : Bytes := []
  status : Nat := 200
  /-- The authorities that the request is redirected to, in order. -/
  redirects : List String := []
  /-- Whether the answer sets a cookie; if nothing is said, that of a login does. -/
  setsCookie : Option Bool := none
  /-- Why the request fails, after its redirects. -/
  failure : Option TransportError := none
  deriving DecidableEq, Repr

structure ScriptedNetwork where
  /-- The authorities that hold a cookie. -/
  cookies : List String := []
  onLogin : Reply := {}
  onCall : Reply := {}
  /-- Whether requests are held up. -/
  closed : Bool := false
  deriving DecidableEq, Repr

namespace ScriptedNetwork

def setCookie (network : ScriptedNetwork) (authority : String) : ScriptedNetwork :=
  { network with cookies := authority :: network.cookies }

/-- Whether a request logs in. -/
def isLogin (request : HttpRequest) : Bool := request.url.path.write == loginPath

/-- Whether a URL's authority holds a cookie. -/
def holds (network : ScriptedNetwork) (url : Url) : Bool :=
  url.authority.any network.cookies.contains

/-- The authority that answers a request. -/
def answering (reply : Reply) (request : HttpRequest) : Option String :=
  match reply.redirects.getLast? with
  | some authority => some authority
  | none => request.url.authority

/-- The network after a reply. -/
def afterReply (network : ScriptedNetwork) (reply : Reply) (request : HttpRequest) :
    ScriptedNetwork :=
  match answering reply request with
  | some authority =>
    if reply.setsCookie.getD (isLogin request) then network.setCookie authority else network
  | none => network

def serve (network : ScriptedNetwork) (request : HttpRequest) : Option (Served ScriptedNetwork) :=
  if network.closed then none
  else
    let reply := if isLogin request then network.onLogin else network.onCall
    match reply.failure with
    | some error => some ⟨network, reply.redirects, .error error⟩
    | none => some ⟨network.afterReply reply request, reply.redirects,
        .ok ⟨reply.status, request.url, reply.body⟩⟩

def transport : Transport ScriptedNetwork := ⟨serve, holds⟩

end ScriptedNetwork
end WlanAdmin
