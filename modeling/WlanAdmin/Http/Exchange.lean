import WlanAdmin.Client.Connection
import WlanAdmin.Http.Cookie
import WlanAdmin.Http.Settings
import WlanAdmin.Http.Wire
import WlanAdmin.Url.Join

/-!
# WlanAdmin.Http.Exchange

Sending requests over a network of hosts: redirects are followed up to a number, cookies are kept
and sent, and bodies are read up to a limit.

* `HttpNetwork.follow` : a request and the redirects that answer it.
* `HttpNetwork.transport` : what a session sees of all this.
-/

namespace WlanAdmin

/-- How hosts answer single requests; `none` where the connection fails. -/
structure HttpNetwork (σ : Type) where
  exchange : σ → WireRequest → σ × Option WireAnswer

/-- A network in which no host answers. -/
def HttpNetwork.unreachable : HttpNetwork Unit := ⟨fun _ _ => ((), none)⟩

structure HttpState (σ : Type) where
  network : σ
  jar : CookieJar := []
  /-- The time, in seconds since the start of 1970. -/
  now : Int := 0

/-- What happens on the way of a request. -/
inductive Waypoint where
  /-- A URL is asked, whether or not it answers. -/
  | asked (url : Url)
  /-- A redirect that is followed is reported, by the authority it leads to. -/
  | reported (authority : String)
  deriving DecidableEq, Repr

/-- What becomes of a request, with all its redirects. -/
structure Journey (σ : Type) where
  state : HttpState σ
  /-- What happened, in order. -/
  trail : List Waypoint := []
  outcome : Except TransportError HttpResponse

/-- The URLs that were asked, in order. -/
def Journey.asked {σ : Type} (journey : Journey σ) : List Url :=
  journey.trail.filterMap fun
    | .asked url => some url
    | .reported _ => none

/-- The authorities of the redirects that were followed, in order. -/
def Journey.redirects {σ : Type} (journey : Journey σ) : List String :=
  journey.trail.filterMap fun
    | .asked _ => none
    | .reported authority => some authority

/-- A journey, after a URL has been asked that redirects to a target, and the target reported. -/
def Journey.after {σ : Type} (journey : Journey σ) (url target : Url) : Journey σ :=
  { journey with
    trail := .asked url :: (target.authority.toList.map .reported ++ journey.trail) }

/-- The URL that an answer from another URL redirects to. -/
def WireAnswer.target? (answer : WireAnswer) (base : Url) : Option Url :=
  if answer.status ∈ [301, 302, 303, 307, 308] then answer.location.bind base.join else none

/-- A request as it is sent first. -/
def HttpRequest.wire (request : HttpRequest) : WireRequest where
  method := request.method
  url := request.url
  csrfToken := request.csrfToken
  contentType := request.contentType
  body := request.body

/-- The request that a redirect asks for. Most redirects ask to fetch the target, and only some to
repeat the request there. -/
def WireRequest.redirected (request : WireRequest) (status : Nat) (target : Url) : WireRequest :=
  if status ∈ [301, 302, 303] then
    { method := .get, url := target, csrfToken := request.csrfToken }
  else { request with url := target }

/-- Whether a token can stand in a header. -/
def isHeaderValue (token : String) : Bool :=
  token.toList.all fun c => c == '\t' || (0x20 ≤ c.toNat && c.toNat != 0x7F)

namespace HttpNetwork

variable {σ : Type}

/-- One exchange, with its cookies. -/
def ask (network : HttpNetwork σ) (state : HttpState σ) (request : WireRequest) :
    HttpState σ × Option WireAnswer :=
  let carried := (state.jar.cookiesFor state.now request.url).map fun cookie =>
    (cookie.name, cookie.value)
  let (next, answer) := network.exchange state.network { request with cookies := carried }
  match answer with
  | none => ({ state with network := next }, none)
  | some answer =>
    let jar := answer.setCookies.foldl (CookieJar.store state.now request.url) state.jar
    ({ state with network := next, jar }, some answer)

/-- Sends a request and follows at most so many redirects. Each is reported before it is followed,
and one too many is neither. -/
def follow (network : HttpNetwork σ) (settings : TransportSettings) (limit : Nat) :
    (redirects : Nat) → HttpState σ → WireRequest → Journey σ
  | redirects, state, request =>
    let (state, answer) := network.ask state request
    let ended := fun outcome => { state, trail := [.asked request.url], outcome : Journey σ }
    match answer with
    | none => ended (.error .http)
    | some answer =>
      match answer.target? request.url, redirects with
      | none, _ => ended ((answer.body.read limit).map fun body =>
          ⟨answer.status, request.url, body⟩)
      | some _, 0 => ended (.error (.redirectLimit settings.maxRedirects))
      | some target, redirects + 1 =>
        (network.follow settings limit redirects state
          (request.redirected answer.status target)).after request.url target

/-- Sends a request. -/
def send (network : HttpNetwork σ) (settings : TransportSettings) (state : HttpState σ)
    (request : HttpRequest) : Journey σ :=
  if request.csrfToken.all isHeaderValue then
    network.follow settings (min request.bodyLimit settings.bodyLimit) settings.maxRedirects state
      request.wire
  else { state, outcome := .error .http }

/-- What a session sees of a network: every request is answered or fails at once. -/
def transport (network : HttpNetwork σ) (settings : TransportSettings) :
    Transport (HttpState σ) where
  serve state request :=
    let journey := network.send settings state request
    some ⟨journey.state, journey.redirects, journey.outcome⟩
  holds state url := !(state.jar.cookiesFor state.now url).isEmpty

end HttpNetwork
end WlanAdmin
