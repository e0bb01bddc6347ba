import WlanAdmin.Client.Settings
import WlanAdmin.Proofs.Client.Course
import WlanAdmin.Proofs.Http.BodyLimit
import WlanAdmin.Proofs.Session.Requests

/-!
# WlanAdmin.Proofs.Client.Hosts

A client that could be built can always form its URLs. Its first host forms them because that has
been tried, and each later one because it is the authority of a URL.

* `IsWebAuthority` : the authorities that redirects lead to.
* `Session.FormsUrls` : the host of a session forms the URL of its root, and so that of every
  absolute path.
* `FormsUrls.run` : redirects keep it.
* `FormsUrls.finished` : no operation ends for want of a URL.
* `HttpNetwork.send_orderly` : what networks report, and how requests fail.
* `ClientSettings.run_formsUrls` : all of this for the runs of a client.
-/

namespace WlanAdmin

/-- The authority of some web URL. -/
def IsWebAuthority (authority : String) : Prop :=
  ∃ url : Url, url.IsWeb ∧ url.authority = some authority

/-- Whether the path that an operation asks for is absolute, if it asks for one. -/
def Goal.IsRooted : Goal → Prop
  | .login | .token | .send _ => True
  | .post path _ | .get path _ => ∃ rest, path.toList = '/' :: rest

theorem RequestEnvelope.goal_isRooted (envelope : RequestEnvelope) : envelope.goal.IsRooted := by
  change ∃ rest, envelope.kind.path.toList = '/' :: rest
  have conf : confPath.toList = '/' :: "admin/_conf.jsp".toList := by rfl
  have cmdStat : cmdStatPath.toList = '/' :: "admin/_cmdstat.jsp".toList := by rfl
  cases envelope.kind with
  | conf action => exact ⟨_, conf⟩
  | stat | command => exact ⟨_, cmdStat⟩

namespace Session

variable {s : Session} {event : Event}

/-- The host of a session forms the URL of its root. -/
def FormsUrls (s : Session) : Prop := ∃ root, endpoint s.scheme s.context.host "/" = .ok root

theorem FormsUrls.url (forms : s.FormsUrls) {path : String} {rest : List Char}
    (absolute : path.toList = '/' :: rest) : ∃ url, s.url path = .ok url := by
  obtain ⟨root, host⟩ := forms
  obtain ⟨url, there, -⟩ := endpoint_absolute host absolute
  exact ⟨url, by simp only [Session.url, there]⟩

theorem FormsUrls.step (forms : s.FormsUrls)
    (web : ∀ authority, event = .redirected authority → IsWebAuthority authority) :
    (s.step event).1.FormsUrls := by
  rw [FormsUrls, (step_move s event).settings_eq.1, step_host]
  cases event with
  | redirected authority =>
    obtain ⟨url, web, of_url⟩ := web authority rfl
    obtain ⟨root, formed, -⟩ := endpoint_authority s.scheme web of_url
      (show "/".toList = ['/'] from rfl)
    exact ⟨root, formed⟩
  | _ => exact forms

theorem FormsUrls.run (forms : s.FormsUrls) {events : List Event}
    (web : ∀ authority, .redirected authority ∈ events → IsWebAuthority authority) :
    (s.run events).1.FormsUrls := by
  induction events generalizing s with
  | nil => exact forms
  | cons event rest ih =>
    refine ih (forms.step fun authority eq => ?_) fun authority mem => ?_
    · exact web authority (eq ▸ List.mem_cons_self)
    · exact web authority (List.mem_cons_of_mem _ mem)

/-- The own request of a rooted operation can be made. -/
theorem FormsUrls.ownRequest (forms : s.FormsUrls) {goal : Goal} (rooted : goal.IsRooted)
    (token : String) :
    s.ownRequest token goal = none ∨ ∃ request, s.ownRequest token goal = some (.ok request) := by
  cases goal with
  | login | token => exact .inl rfl
  | send request => exact .inr ⟨request, rfl⟩
  | post path body | get path limit =>
    obtain ⟨rest, absolute⟩ := rooted
    obtain ⟨url, formed⟩ := forms.url absolute
    simp [Session.ownRequest, formed, Except.map]

theorem loginResult_ne_invalidUrl {answer : Except TransportError HttpResponse}
    (answered : ∀ text, answer ≠ .error (.invalidUrl text)) (text : String) :
    loginResult answer ≠ .error (.transport (.invalidUrl text)) := by
  intro failed
  have fails : LoginFails answer (.transport (.invalidUrl text)) :=
    loginFails_iff.mpr ⟨_, failed, rfl⟩
  cases fails with
  | unanswered _ =>
    cases failed
    exact answered text rfl

theorem outcomeOf_ne_invalidUrl {answer : Except TransportError HttpResponse}
    (answered : ∀ text, answer ≠ .error (.invalidUrl text)) (goal : Goal) (text : String) :
    outcomeOf goal answer ≠ .error (.transport (.invalidUrl text)) := by
  intro failed
  cases answer with
  | error error => cases failed; exact answered text rfl
  | ok response => cases goal <;> simp [outcomeOf] at failed <;> split at failed <;> cases failed

/-- A rooted operation does not end for want of a URL, unless the network says that there is
none. -/
theorem FormsUrls.finished (forms : s.FormsUrls) {id : TaskId} {outcome : Outcome}
    (shown : .finished id outcome ∈ (s.step event).2)
    (answered : ∀ text, event ≠ .answer id (.error (.invalidUrl text))) :
    ∃ goal stage, s.task? id = some ⟨goal, stage⟩ ∧
      (goal.IsRooted → ∀ text, outcome ≠ .error (.transport (.invalidUrl text))) := by
  have move := step_move s event
  generalize s.step event = moved at move shown
  cases move with
  | @logsIn other goal s' entry =>
    obtain ⟨root, host⟩ := forms
    obtain ⟨request, made⟩ := exists_loginRequest host
    have unchanged : s'.context.loginRequest s'.scheme = s.context.loginRequest s.scheme := by
      cases entry <;> rfl
    simp only [startLogin, unchanged, made, List.mem_singleton] at shown
    cases shown
  | @granted other goal _ s' token grant =>
    obtain ⟨stage, here⟩ := grant.underWay
    rw [withToken_eq, grant.ownRequest_eq] at shown
    cases own : s.ownRequest token goal with
    | none =>
      rw [own] at shown
      cases List.mem_singleton.mp shown
      exact ⟨goal, stage, here, fun _ text failed => by cases failed⟩
    | some made =>
      cases made with
      | ok request =>
        rw [own] at shown
        cases List.mem_singleton.mp shown
      | error error =>
        rw [own] at shown
        cases List.mem_singleton.mp shown
        refine ⟨goal, stage, here, fun rooted => ?_⟩
        obtain none_own | ⟨request, made⟩ := forms.ownRequest rooted token
        · cases own.symm.trans none_own
        · cases own.symm.trans made
  | passed _ => cases List.mem_singleton.mp shown
  | loginDone here _ =>
    cases List.mem_singleton.mp shown
    exact ⟨_, _, here, fun _ text failed => by cases failed⟩
  | loginFailed here failed =>
    cases List.mem_singleton.mp shown
    refine ⟨_, _, here, fun _ text ended => ?_⟩
    cases ended
    exact loginResult_ne_invalidUrl (fun text eq => answered text (eq ▸ rfl)) text failed
  | answered here =>
    cases List.mem_singleton.mp shown
    exact ⟨_, _, here, fun _ => outcomeOf_ne_invalidUrl (fun text eq => answered text (eq ▸ rfl)) _⟩
  | _ => exact absurd shown List.not_mem_nil

/-- A request goes to a web URL, unless it is one that is sent as it is. -/
theorem sent_isWeb {id : TaskId} {request : HttpRequest}
    (shown : .sent id request ∈ (s.step event).2) :
    request.url.IsWeb ∨ ∃ stage, s.task? id = some ⟨.send request, stage⟩ := by
  have move := step_move s event
  generalize s.step event = moved at move shown
  cases move with
  | @logsIn other goal s' entry =>
    obtain ⟨login, made, sent⟩ | ⟨error, failed⟩ := startLogin_cases s' other goal
    · rw [sent] at shown
      cases List.mem_singleton.mp shown
      obtain ⟨url, formed, rfl⟩ := loginRequest_ok made
      exact .inl (isWeb_of_endpoint formed)
    · rw [failed] at shown
      cases List.mem_singleton.mp shown
  | @granted other goal _ s' token grant =>
    obtain ⟨own, made, sent⟩ | ⟨outcome, ended⟩ := withToken_cases s' other goal token
    · rw [sent] at shown
      cases List.mem_singleton.mp shown
      obtain ⟨path, body, url, rfl, formed, rfl⟩ | ⟨path, limit, url, rfl, formed, rfl⟩ | rfl :=
        ownRequest_cases made
      · exact .inl (isWeb_of_endpoint (url_ok formed))
      · exact .inl (isWeb_of_endpoint (url_ok formed))
      · exact .inr grant.underWay
    · rw [ended] at shown
      cases List.mem_singleton.mp shown
  | passed here =>
    cases List.mem_singleton.mp shown
    exact .inr ⟨_, here⟩
  | loginDone _ _ | loginFailed _ _ | answered _ => cases List.mem_singleton.mp shown
  | _ => exact absurd shown List.not_mem_nil

end Session

/-! ## Networks -/

theorem WireBody.read_ne_invalidUrl (limit : Nat) (body : WireBody) (text : String) :
    body.read limit ≠ .error (.invalidUrl text) := by
  rw [read_eq]
  split
  · exact nofun
  · split <;> exact nofun

namespace HttpNetwork

variable {σ : Type} {network : HttpNetwork σ} {settings : TransportSettings} {limit : Nat}

theorem conclude_ne_invalidUrl (limit : Nat) (url : Url) (answer : Option WireAnswer)
    (text : String) : conclude limit url answer ≠ .error (.invalidUrl text) := by
  cases answer with
  | none => exact nofun
  | some answer =>
    intro failed
    cases read : answer.body.read limit with
    | ok body => rw [conclude, read] at failed; cases failed
    | error error =>
      rw [conclude, read] at failed
      cases failed
      exact answer.body.read_ne_invalidUrl limit text read

/-- The redirects that a network answers a request to a web URL with lead to authorities of web
URLs, as long as all have such a scheme, and no request fails for want of a URL. -/
theorem send_orderly {state : HttpState σ} {request : HttpRequest} (from_web : request.url.IsWeb) :
    let journey := network.send settings state request
    (∀ url ∈ journey.asked, url.HasWebScheme) →
      (∀ authority ∈ journey.redirects, IsWebAuthority authority) ∧
      ∀ text, journey.outcome ≠ .error (.invalidUrl text) := by
  intro journey schemes
  by_cases sendable : request.csrfToken.all isHeaderValue = true
  · obtain ⟨targets, last, final, leads, -, trail_eq, outcome_eq⟩ := follow_leads settings
      (min request.bodyLimit settings.bodyLimit) network settings.maxRedirects state request.wire
    rw [← send_of_sendable sendable] at trail_eq outcome_eq
    rw [Journey.asked_along trail_eq] at schemes
    have web := leads.isWeb from_web (List.forall_mem_cons.mp schemes).2
    refine ⟨fun authority reported => ?_, fun text => ?_⟩
    · rw [Journey.redirects_along trail_eq] at reported
      obtain ⟨target, inside, of_target⟩ := List.mem_filterMap.mp reported
      exact ⟨target, web target inside, of_target⟩
    · obtain limited | ⟨answer, concluded⟩ := outcome_eq
      · rw [limited]
        exact nofun
      · rw [concluded]
        exact conclude_ne_invalidUrl _ _ answer text
  · have unsent : journey = { state, outcome := .error .http } := if_neg sendable
    rw [unsent]
    exact ⟨nofun, fun text => nofun⟩

end HttpNetwork

/-! ## The runs of a client -/

theorem ClientError.eq_of_ofSession {error : SessionError} {text : String}
    (h : ofSession error = .transport (.invalidUrl text)) :
    error = .transport (.invalidUrl text) := by
  cases error with
  | rejected reason => cases h
  | badResponse fault => cases h
  | transport error =>
    cases error with
    | invalidUrl other =>
      cases h
      rfl
    | _ => cases h

theorem Call.finish_ne_invalidUrl {α : Type} {call : Call α} {path : String}
    (goes : call.GoesTo path) {outcome : Outcome}
    (has_url : ∀ text, outcome ≠ .error (.transport (.invalidUrl text))) (text : String) :
    call.finish outcome ≠ .error (.transport (.invalidUrl text)) := by
  intro failed
  cases outcome with
  | ok gain =>
    have reads := goes.reads gain.octets
    rw [show call.interpret gain.octets = _ from failed] at reads
    cases reads
  | error error =>
    have kind := ClientError.eq_of_ofSession (Except.error.inj failed)
    exact has_url text (kind ▸ rfl)

/-- A client that could be built can form the URL of its root and that of every absolute path,
whatever has happened to it since, as long as redirects led to web URLs. So no login and no call
with an envelope ends for want of a URL: the next event ends no operation on an absolute path, or on
none, in such a way. What is asked of the network here is what it does with the requests of the
client, if it redirects them to web URLs. -/
theorem ClientSettings.run_formsUrls {settings : ClientSettings} {context : Context}
    (built : settings.context = .ok context) (refresh : Refresh) (holds : Url → Bool)
    {events : List Event}
    (web : ∀ authority, .redirected authority ∈ events → IsWebAuthority authority) :
    let start : Session := { scheme := settings.transport.scheme, refresh, context, holds }
    let s := (start.run events).1
    (∀ path rest, path.toList = '/' :: rest → ∃ url, s.url path = .ok url) ∧
    (∃ root, endpoint s.scheme s.context.host "/" = .ok root) ∧
    (∀ event id outcome, .finished id outcome ∈ (s.step event).2 →
      (∀ text, event ≠ .answer id (.error (.invalidUrl text))) →
      ∃ goal stage, s.task? id = some ⟨goal, stage⟩ ∧
        (goal.IsRooted → ∀ text, outcome ≠ .error (.transport (.invalidUrl text)) ∧
          ∀ {α : Type} (call : Call α) path, call.GoesTo path →
            call.finish outcome ≠ .error (.transport (.invalidUrl text)))) ∧
    (∀ envelope : RequestEnvelope, envelope.goal.IsRooted) ∧
    (∀ event id request, .sent id request ∈ (s.step event).2 →
      request.url.IsWeb ∨ ∃ stage, s.task? id = some ⟨.send request, stage⟩) ∧
    ∀ (σ : Type) (network : HttpNetwork σ) state request, request.url.IsWeb →
      let journey := network.send settings.transport state request
      (∀ url ∈ journey.asked, url.HasWebScheme) →
        (∀ authority ∈ journey.redirects, IsWebAuthority authority) ∧
        ∀ text, journey.outcome ≠ .error (.invalidUrl text) := by
  intro start s
  have forms : start.FormsUrls := by
    unfold ClientSettings.context at built
    split at built
    · rename_i root formed
      cases built
      exact ⟨root, formed⟩
    · cases built
  have after : s.FormsUrls := forms.run web
  refine ⟨fun path rest absolute => after.url absolute, after, ?_, RequestEnvelope.goal_isRooted,
    fun event id request shown => Session.sent_isWeb shown,
    fun σ network state request from_web => HttpNetwork.send_orderly from_web⟩
  intro event id outcome shown answered
  obtain ⟨goal, stage, here, has_url⟩ := after.finished shown answered
  refine ⟨goal, stage, here, fun rooted text => ⟨has_url rooted text, fun call path goes => ?_⟩⟩
  exact call.finish_ne_invalidUrl goes (has_url rooted) text

/-- A host with a user and a needless port, and a redirect from there to an address with one that is
needed. -/
theorem ClientSettings.run_formsUrls_address :
    let settings : ClientSettings := { host := "u@a.local:0443" }
    let context : Context := { host := "u@a.local:0443", credentials := ⟨"", ""⟩ }
    let events : List Event := [.start 0 (.get "x" 1), .poll 0, .redirected "[::1]:8443"]
    let start : Session := { scheme := .https, refresh := .concurrent, context }
    settings.context = .ok context ∧
      (∀ authority, .redirected authority ∈ events → IsWebAuthority authority) ∧
      (start.run events).1.context.host = "[::1]:8443" ∧
      ∀ path rest, path.toList = '/' :: rest → ∃ url, (start.run events).1.url path = .ok url := by
  intro settings context events start
  have root : endpoint .https "u@a.local:0443" "/" = .ok
      ⟨"https", "u", "", some (.domain "a.local"), none, .segments [""], none, none⟩ :=
    endpoint_ok_iff.mpr (by decide +kernel)
  have built : settings.context = .ok context := by
    simp only [ClientSettings.context, settings, root]
    rfl
  let there : Url := ⟨"https", "", "", some (.ipv6 #v[0, 0, 0, 0, 0, 0, 0, 1]), some 8443,
    .segments ["x"], none, none⟩
  have parsed : Url.parse "https://[0:0::1]:8443/x" = some there := by decide +kernel
  have web : ∀ authority, .redirected authority ∈ events → IsWebAuthority authority := by
    intro authority mem
    obtain rfl : authority = "[::1]:8443" := by simpa [events] using mem
    exact ⟨there, .parsed parsed (.inr rfl), by decide +kernel⟩
  obtain ⟨urls, -⟩ := ClientSettings.run_formsUrls built .concurrent (fun _ => false) web
  exact ⟨built, web, by decide +kernel, urls⟩

end WlanAdmin
