import WlanAdmin.Proofs.Url.Authority
import WlanAdmin.Session.Step

/-!
# WlanAdmin.Proofs.Session.Repinning

A session that is led to another host keeps the authority of where it was led, and all of its URLs
go there. The authority that is kept is a normal form: it is that of every URL that is formed of it.

* `Url.IsWeb.reformed`      : the endpoints of the authority of a web URL, by its own scheme.
* `endpoint_authority_kept` : the authority of an endpoint is that of the endpoints it forms.
* `Session.repinned`        : a second report of the same redirect changes nothing.
* `repinning_faithful`      : all of this, for each scheme.
-/

namespace WlanAdmin

/-- The endpoints of the authority of a web URL have its host, its port and its authority, and no
user. -/
theorem Url.IsWeb.reformed {scheme : Scheme} {url : Url} (web : url.IsWeb)
    (own : url.scheme = scheme.word) {authority : String} (of_url : url.authority = some authority)
    {path : String} {rest : List Char} (absolute : path.toList = '/' :: rest) :
    ∃ formed, endpoint scheme authority path = .ok formed ∧ formed.host = url.host ∧
      formed.effectivePort = url.effectivePort ∧ formed.username = "" ∧ formed.password = "" ∧
      formed.authority = some authority := by
  obtain ⟨formed, made, same_host, shown, no_user, no_password⟩ :=
    endpoint_authority scheme web of_url absolute
  have same_port : formed.port = url.port := by
    rw [shown, ← own]
    exact web.shownPort_eq
  have same_scheme : formed.scheme = url.scheme := by
    rw [scheme_of_endpoint made, own]
  have effective : formed.effectivePort = url.effectivePort := by
    simp only [Url.effectivePort, same_port, same_scheme]
  have kept : formed.authority = some authority := by
    rw [Url.authority_congr same_host same_port, of_url]
  exact ⟨formed, made, same_host, effective, no_user, no_password, kept⟩

/-- Whatever host an endpoint was formed of, its authority is that of the endpoints it forms. -/
theorem endpoint_authority_kept {scheme : Scheme} {host path : String} {url : Url}
    (made : endpoint scheme host path = .ok url) :
    ∃ authority, url.authority = some authority ∧
      ∀ other rest, other.toList = '/' :: rest →
        ∃ again, endpoint scheme authority other = .ok again ∧
          again.authority = some authority := by
  have web := isWeb_of_endpoint made
  obtain ⟨authority, of_url⟩ := web.authority
  refine ⟨authority, of_url, ?_⟩
  intro other rest absolute
  obtain ⟨again, formed, -, -, -, -, kept⟩ :=
    web.reformed (scheme_of_endpoint made) of_url absolute
  exact ⟨again, formed, kept⟩

namespace Session

/-- A session keeps the authority that a redirect reports, and a second report changes nothing. -/
theorem repinned (s : Session) (authority : String) :
    (s.step (.redirected authority)).1.context.host = authority ∧
      (s.step (.redirected authority)).1.step (.redirected authority) =
        ((s.step (.redirected authority)).1, []) := by
  constructor
  · rfl
  · rfl

end Session

/-- A session that is led to a URL of its scheme keeps a host of which every absolute path makes a
URL: one of the same host and port, with no user, whose authority is the host that is kept. So a
host that forms a URL at all is kept as it is once it has been read, and a redirect that is reported
again leaves the session as it was. -/
theorem repinning_faithful (scheme : Scheme) :
    (∀ url : Url, url.IsWeb → url.scheme = scheme.word →
      ∃ authority, url.authority = some authority ∧
        (∀ path rest, path.toList = '/' :: rest →
          ∃ formed, endpoint scheme authority path = .ok formed ∧ formed.host = url.host ∧
            formed.effectivePort = url.effectivePort ∧ formed.username = "" ∧
            formed.password = "" ∧ formed.authority = some authority) ∧
        ∀ s : Session,
          let pinned := (s.step (.redirected authority)).1
          pinned.context.host = authority ∧
            pinned.step (.redirected authority) = (pinned, [])) ∧
    ∀ host path url, endpoint scheme host path = .ok url →
      ∃ authority, url.authority = some authority ∧
        ∀ other rest, other.toList = '/' :: rest →
          ∃ again, endpoint scheme authority other = .ok again ∧
            again.authority = some authority := by
  constructor
  · intro url web own
    obtain ⟨authority, of_url⟩ := web.authority
    refine ⟨authority, of_url, ?_, ?_⟩
    · intro path rest absolute
      exact web.reformed own of_url absolute
    · intro s
      exact s.repinned authority
  · intro host path url made
    exact endpoint_authority_kept made

/-- A user, an address of two numbers, one of them in base sixteen, and the scheme's own port: none
of it is kept but the address. -/
theorem repinning_faithful_address :
    let url : Url :=
      ⟨"https", "u", "p", some (.ipv4 0x7F000001), none, .segments ["x"], none, none⟩
    Url.parse "https://u:p@0x7F.1:0443/x" = some url ∧ url.IsWeb ∧
      url.scheme = Scheme.https.word ∧ url.authority = some "127.0.0.1" ∧
      ∃ formed, endpoint .https "127.0.0.1" "/y" = .ok formed ∧ formed.host = url.host ∧
        formed.effectivePort = some 443 ∧ formed.username = "" ∧ formed.password = "" ∧
        formed.authority = some "127.0.0.1" := by
  intro url
  have parsed : Url.parse "https://u:p@0x7F.1:0443/x" = some url := by decide +kernel
  have web : url.IsWeb := .parsed parsed (.inr rfl)
  have kept : url.authority = some "127.0.0.1" := by decide +kernel
  obtain ⟨authority, of_url, forms, -⟩ := (repinning_faithful .https).1 url web rfl
  obtain rfl : "127.0.0.1" = authority := by
    rw [kept] at of_url
    exact Option.some.inj of_url
  obtain ⟨formed, made, host, port, user, password, again⟩ := forms "/y" ['y'] (by rfl)
  refine ⟨parsed, web, rfl, kept, formed, made, host, ?_, user, password, again⟩
  rw [port]
  decide

end WlanAdmin
