import WlanAdmin.Http.Exchange
import WlanAdmin.Proofs.Session.History
import WlanAdmin.Proofs.Url.Authority

/-!
# WlanAdmin.Proofs.Http.Redirects

How far redirects are followed, what is asked on the way, and what a session is told of it.

* `HttpNetwork.Leads` : a chain of redirects that hosts answer with, of any length.
* `Leads.follow` : a chain within the limit is followed to its end.
* `Leads.take` : one beyond the limit is followed up to it.
* `Connection.serve_host` : a session goes where the last redirect that was followed leads.
* `HttpNetwork.send_redirects` : all of this for the sending of a request.
-/

namespace WlanAdmin

/-- What happens when redirects to some targets are followed: each is reported, and then asked. -/
def Waypoint.along (targets : List Url) : List Waypoint :=
  targets.flatMap fun target => target.authority.toList.map .reported ++ [.asked target]

namespace HttpNetwork

variable {σ : Type}

/-- Hosts answer a request with a redirect, the request that it asks for with another one, and so on
through these targets. -/
inductive Leads (network : HttpNetwork σ) : HttpState σ → WireRequest → List Url → HttpState σ →
    WireRequest → Prop where
  | here {state : HttpState σ} {request : WireRequest} :
      Leads network state request [] state request
  | hop {state next last : HttpState σ} {request final : WireRequest} {answer : WireAnswer}
      {target : Url} {targets : List Url} :
      network.ask state request = (next, some answer) →
      answer.target? request.url = some target →
      Leads network next (request.redirected answer.status target) targets last final →
      Leads network state request (target :: targets) last final

/-- What a request gives that is answered with no redirect, or with nothing. -/
def conclude (limit : Nat) (url : Url) (answer : Option WireAnswer) :
    Except TransportError HttpResponse :=
  match answer with
  | none => .error .http
  | some answer => (answer.body.read limit).map fun body => ⟨answer.status, url, body⟩

variable {network : HttpNetwork σ} (settings : TransportSettings) (limit : Nat)
  {state next : HttpState σ} {request : WireRequest}

theorem redirected_url (request : WireRequest) (status : Nat) (target : Url) :
    (request.redirected status target).url = target := by
  unfold WireRequest.redirected
  split <;> rfl

theorem follow_end {answer : Option WireAnswer} (asks : network.ask state request = (next, answer))
    (ends : answer.bind (·.target? request.url) = none) (redirects : Nat) :
    network.follow settings limit redirects state request =
      ⟨next, [.asked request.url], conclude limit request.url answer⟩ := by
  unfold follow
  simp only [asks]
  cases answer with
  | none => rfl
  | some answer =>
    have none_left : answer.target? request.url = none := ends
    simp only [none_left]
    rfl

theorem follow_hop {answer : WireAnswer} {target : Url}
    (asks : network.ask state request = (next, some answer))
    (leads : answer.target? request.url = some target) (redirects : Nat) :
    network.follow settings limit (redirects + 1) state request =
      (network.follow settings limit redirects next
        (request.redirected answer.status target)).after request.url target := by
  conv => lhs; unfold follow
  simp only [asks, leads]

theorem follow_zero {answer : WireAnswer} {target : Url}
    (asks : network.ask state request = (next, some answer))
    (leads : answer.target? request.url = some target) :
    network.follow settings limit 0 state request =
      ⟨next, [.asked request.url], .error (.redirectLimit settings.maxRedirects)⟩ := by
  unfold follow
  simp only [asks, leads]

/-- A chain within the limit is followed, and what becomes of the request after it is what becomes
of it altogether. -/
theorem Leads.follow {targets : List Url} {last : HttpState σ} {final : WireRequest}
    (leads : network.Leads state request targets last final) (redirects : Nat) :
    final.url = targets.getLast?.getD request.url ∧
    let journey := network.follow settings limit (targets.length + redirects) state request
    let rest := network.follow settings limit redirects last final
    journey.state = rest.state ∧ journey.outcome = rest.outcome ∧
      ∀ trail, rest.trail = .asked final.url :: trail →
        journey.trail = .asked request.url :: (Waypoint.along targets ++ trail) := by
  induction leads with
  | here => exact ⟨rfl, by simp [Waypoint.along]⟩
  | @hop state next last request final answer target targets asks leads _ ih =>
    obtain ⟨final_url, state_eq, outcome_eq, trail_eq⟩ := ih
    rw [redirected_url] at final_url trail_eq
    have moved := follow_hop settings limit asks leads (targets.length + redirects)
    refine ⟨final_url.trans ?_, ?_⟩
    · simp [List.getLast?_cons]
    · rw [List.length_cons, Nat.add_right_comm, moved]
      refine ⟨state_eq, outcome_eq, fun trail rest => ?_⟩
      simp [Journey.after, trail_eq trail rest, Waypoint.along]

/-- Before the end of a chain there is one more redirect. -/
theorem Leads.take {targets : List Url} {last : HttpState σ} {final : WireRequest}
    (leads : network.Leads state request targets last final) {count : Nat}
    (more : count < targets.length) :
    ∃ between at_limit next answer target,
      network.Leads state request (targets.take count) between at_limit ∧
      network.ask between at_limit = (next, some answer) ∧
      answer.target? at_limit.url = some target := by
  induction leads generalizing count with
  | here => cases more
  | hop asks leads _ ih =>
    cases count with
    | zero => exact ⟨_, _, _, _, _, .here, asks, leads⟩
    | succ count =>
      obtain ⟨between, at_limit, next, answer, target, front, asks', leads'⟩ :=
        ih (Nat.lt_of_succ_lt_succ more)
      exact ⟨between, at_limit, next, answer, target, .hop asks leads front, asks', leads'⟩

/-- Every request goes along a chain that is not too long, to its end or to the limit. -/
theorem follow_leads (network : HttpNetwork σ) (redirects : Nat) (state : HttpState σ)
    (request : WireRequest) :
    ∃ targets last final, network.Leads state request targets last final ∧
      targets.length ≤ redirects ∧
      let journey := network.follow settings limit redirects state request
      journey.trail = .asked request.url :: Waypoint.along targets ∧
        (journey.outcome = .error (.redirectLimit settings.maxRedirects) ∨
          ∃ answer, journey.outcome = conclude limit final.url answer) := by
  induction redirects generalizing state request with
  | zero =>
    refine ⟨[], state, request, .here, Nat.le_refl 0, ?_⟩
    rcases asks : network.ask state request with ⟨next, answer⟩
    cases ends : answer.bind (·.target? request.url) with
    | none =>
      rw [follow_end settings limit asks ends]
      exact ⟨rfl, .inr ⟨answer, rfl⟩⟩
    | some target =>
      obtain ⟨answer, rfl, leads⟩ := Option.bind_eq_some_iff.mp ends
      rw [follow_zero settings limit asks leads]
      exact ⟨rfl, .inl rfl⟩
  | succ redirects ih =>
    rcases asks : network.ask state request with ⟨next, answer⟩
    cases ends : answer.bind (·.target? request.url) with
    | none =>
      refine ⟨[], state, request, .here, Nat.zero_le _, ?_⟩
      rw [follow_end settings limit asks ends]
      exact ⟨rfl, .inr ⟨answer, rfl⟩⟩
    | some target =>
      obtain ⟨answer, rfl, leads⟩ := Option.bind_eq_some_iff.mp ends
      obtain ⟨targets, last, final, on, short, trail_eq, outcome_eq⟩ :=
        ih next (request.redirected answer.status target)
      refine ⟨target :: targets, last, final, .hop asks leads on, Nat.succ_le_succ short, ?_⟩
      rw [follow_hop settings limit asks leads]
      refine ⟨?_, outcome_eq⟩
      rw [Journey.after, trail_eq, redirected_url]
      simp [Waypoint.along]

/-- Redirects lead from one web URL to the next, if all have such a scheme. -/
theorem Leads.isWeb {targets : List Url} {last : HttpState σ} {final : WireRequest}
    (leads : network.Leads state request targets last final) (from_web : request.url.IsWeb)
    (schemes : ∀ target ∈ targets, target.HasWebScheme) : ∀ target ∈ targets, target.IsWeb := by
  induction leads with
  | here => exact nofun
  | @hop state next last request final answer target targets _ leads _ ih =>
    obtain ⟨scheme, schemes⟩ := List.forall_mem_cons.mp schemes
    have web : target.IsWeb := by
      unfold WireAnswer.target? at leads
      split at leads
      · obtain ⟨reference, -, joined⟩ := Option.bind_eq_some_iff.mp leads
        exact .joined from_web joined scheme
      · cases leads
    exact List.forall_mem_cons.mpr ⟨web, ih ((redirected_url _ _ _).symm ▸ web) schemes⟩

end HttpNetwork

namespace Journey

variable {σ : Type} {journey : Journey σ} {url : Url} {targets : List Url}

/-- Along targets, they are asked. -/
theorem asked_along (h : journey.trail = .asked url :: Waypoint.along targets) :
    journey.asked = url :: targets := by
  rw [asked, h]
  refine congrArg (url :: ·) ?_
  clear h
  induction targets with
  | nil => rfl
  | cons target targets ih =>
    rw [Waypoint.along, List.flatMap_cons, List.filterMap_append, ← Waypoint.along, ih]
    cases target.authority <;> simp

/-- Along targets, their authorities are reported. -/
theorem redirects_along (h : journey.trail = .asked url :: Waypoint.along targets) :
    journey.redirects = targets.filterMap Url.authority := by
  rw [redirects, h, List.filterMap_cons_none rfl]
  clear h
  induction targets with
  | nil => rfl
  | cons target targets ih =>
    rw [Waypoint.along, List.flatMap_cons, List.filterMap_append, ← Waypoint.along, ih]
    cases eq : target.authority <;> simp [eq]

end Journey

/-! ## What a session is told -/

theorem getLast?_filterMap_of_isSome {α β : Type} {f : α → Option β} {xs : List α}
    (h : ∀ x ∈ xs, (f x).isSome) : (xs.filterMap f).getLast? = xs.getLast?.bind f := by
  rcases List.eq_nil_or_concat xs with rfl | ⟨front, last, rfl⟩
  · rfl
  · obtain ⟨value, eq⟩ := Option.isSome_iff_exists.mp (h last (by simp))
    simp [eq]

theorem Connection.note_session {σ : Type} (connection : Connection σ) (events : List Event) :
    (connection.note events).session = (connection.session.run events).1 := by
  induction events generalizing connection with
  | nil => rfl
  | cons event events ih => exact ih (connection.feed event).1

/-- A session goes where the last redirect leads that is followed on the way of a request, and stays
where it is when none is. -/
theorem Connection.serve_host {σ : Type} (network : HttpNetwork σ) (settings : TransportSettings)
    {connection : Connection (HttpState σ)} {id : TaskId} {request : HttpRequest}
    (waits : connection.unanswered.lookup id = some request) :
    (connection.serve (network.transport settings) id).1.session.context.host =
      (network.send settings connection.network request).redirects.getLast?.getD
        connection.session.context.host := by
  simp only [serve, waits, HttpNetwork.transport, feed]
  rw [Session.step_host, note_session, Session.run_host]
  simp [Event.host?, List.filterMap_append, List.filterMap_map, Function.comp_def]

/-- What a network makes of a request whose redirects are followed to some targets: each is reported
and then asked, in order and once, and nothing else is; and a session that has sent the request goes
where the last of them leads. -/
structure HttpNetwork.Follows {σ : Type} (network : HttpNetwork σ) (settings : TransportSettings)
    (state : HttpState σ) (request : HttpRequest) (targets : List Url)
    (outcome : Except TransportError HttpResponse) : Prop where
  outcome_eq : (network.send settings state request).outcome = outcome
  trail_eq : (network.send settings state request).trail =
    .asked request.url :: Waypoint.along targets
  /-- Each target has an authority, so each is reported. -/
  reported : ∀ target ∈ targets, target.authority.isSome
  host : ∀ (connection : Connection (HttpState σ)) id, connection.network = state →
    connection.unanswered.lookup id = some request →
    (connection.serve (network.transport settings) id).1.session.context.host =
      (targets.getLast?.bind Url.authority).getD connection.session.context.host

namespace HttpNetwork

variable {σ : Type} {network : HttpNetwork σ} {settings : TransportSettings} {state : HttpState σ}
  {request : HttpRequest}

theorem send_of_sendable (sendable : request.csrfToken.all isHeaderValue = true) :
    network.send settings state request =
      network.follow settings (min request.bodyLimit settings.bodyLimit) settings.maxRedirects state
        request.wire :=
  if_pos sendable

/-- No more URLs are asked than the request's own and one for each redirect that may be followed. -/
theorem send_asked_length_le :
    (network.send settings state request).asked.length ≤ settings.maxRedirects + 1 := by
  unfold send
  split
  · obtain ⟨targets, -, -, -, short, trail_eq, -⟩ := follow_leads settings
      (min request.bodyLimit settings.bodyLimit) network settings.maxRedirects state request.wire
    rw [Journey.asked_along trail_eq]
    exact Nat.succ_le_succ short
  · exact Nat.zero_le _

/-- A trail along web URLs says where a session goes. -/
theorem Follows.of_trail {targets : List Url} {outcome : Except TransportError HttpResponse}
    (web : ∀ target ∈ targets, target.IsWeb)
    (outcome_eq : (network.send settings state request).outcome = outcome)
    (trail_eq : (network.send settings state request).trail =
      .asked request.url :: Waypoint.along targets) :
    network.Follows settings state request targets outcome := by
  have reported : ∀ target ∈ targets, target.authority.isSome := fun target inside =>
    Option.isSome_iff_exists.mpr (web target inside).authority
  refine ⟨outcome_eq, trail_eq, reported, fun connection id same waits => ?_⟩
  rw [Connection.serve_host network settings waits, same, Journey.redirects_along trail_eq,
    getLast?_filterMap_of_isSome reported]

/-- A request whose token cannot stand in a header goes nowhere, and no session does. -/
theorem send_unsendable (unsendable : request.csrfToken.all isHeaderValue = false) :
    (network.send settings state request).trail = [] ∧
    ∀ (connection : Connection (HttpState σ)) id, connection.network = state →
      connection.unanswered.lookup id = some request →
      (connection.serve (network.transport settings) id).1.session.context.host =
        connection.session.context.host := by
  have sent : network.send settings state request = { state, outcome := .error .http } := by
    rw [send, unsendable, if_neg Bool.false_ne_true]
  refine ⟨by rw [sent], fun connection id same waits => ?_⟩
  rw [Connection.serve_host network settings waits, same, sent]
  rfl

/-- A chain within the limit is followed to its end, whatever stands there. -/
theorem Leads.follows {targets : List Url} {last next : HttpState σ} {final : WireRequest}
    (leads : network.Leads state request.wire targets last final)
    (sendable : request.csrfToken.all isHeaderValue = true)
    (web : ∀ target ∈ targets, target.IsWeb) (within : targets.length ≤ settings.maxRedirects)
    {answer : Option WireAnswer} (asks : network.ask last final = (next, answer))
    (ends : answer.bind (·.target? final.url) = none) :
    network.Follows settings state request targets
      (conclude (min request.bodyLimit settings.bodyLimit) (targets.getLast?.getD request.url)
        answer) := by
  have ended := follow_end settings (min request.bodyLimit settings.bodyLimit) asks ends
    (settings.maxRedirects - targets.length)
  obtain ⟨final_url, -, outcome_eq, trail_eq⟩ := leads.follow settings
    (min request.bodyLimit settings.bodyLimit) (settings.maxRedirects - targets.length)
  rw [Nat.add_sub_cancel' within, ended, ← send_of_sendable sendable] at outcome_eq trail_eq
  refine .of_trail web ?_ ?_
  · rw [outcome_eq, final_url]
    rfl
  · rw [trail_eq [] rfl, List.append_nil]
    rfl

/-- One beyond the limit is followed up to it. -/
theorem Leads.follows_take {targets : List Url} {last : HttpState σ} {final : WireRequest}
    (leads : network.Leads state request.wire targets last final)
    (sendable : request.csrfToken.all isHeaderValue = true)
    (web : ∀ target ∈ targets, target.IsWeb) (beyond : settings.maxRedirects < targets.length) :
    network.Follows settings state request (targets.take settings.maxRedirects)
      (.error (.redirectLimit settings.maxRedirects)) := by
  obtain ⟨between, at_limit, next, answer, target, front, asks, more⟩ := leads.take beyond
  have ended := follow_zero settings (min request.bodyLimit settings.bodyLimit) asks more
  obtain ⟨-, -, outcome_eq, trail_eq⟩ := front.follow settings
    (min request.bodyLimit settings.bodyLimit) 0
  have length : (targets.take settings.maxRedirects).length + 0 = settings.maxRedirects := by
    rw [Nat.add_zero, List.length_take, Nat.min_eq_left (Nat.le_of_lt beyond)]
  rw [length, ended, ← send_of_sendable sendable] at outcome_eq trail_eq
  refine .of_trail (fun target inside => web target (List.mem_of_mem_take inside)) outcome_eq ?_
  rw [trail_eq [] rfl, List.append_nil]
  rfl

/-- Redirects end, whatever hosts answer. Those within the limit are followed, and the answer after
them is the outcome; of those beyond it so many are followed as the limit allows, and the next one
is neither reported nor asked. A session that has sent the request goes where they lead. -/
theorem send_redirects (network : HttpNetwork σ) (settings : TransportSettings)
    (state : HttpState σ) (request : HttpRequest) :
    (network.send settings state request).asked.length ≤ settings.maxRedirects + 1 ∧
    (request.csrfToken.all isHeaderValue = false →
      (network.send settings state request).trail = [] ∧
      ∀ (connection : Connection (HttpState σ)) id, connection.network = state →
        connection.unanswered.lookup id = some request →
        (connection.serve (network.transport settings) id).1.session.context.host =
          connection.session.context.host) ∧
    (request.csrfToken.all isHeaderValue = true →
      ∀ targets last final, network.Leads state request.wire targets last final →
        (∀ target ∈ targets, target.IsWeb) →
        (targets.length ≤ settings.maxRedirects → ∀ next answer,
          network.ask last final = (next, answer) → answer.bind (·.target? final.url) = none →
          network.Follows settings state request targets
            (conclude (min request.bodyLimit settings.bodyLimit)
              (targets.getLast?.getD request.url) answer)) ∧
        (settings.maxRedirects < targets.length →
          network.Follows settings state request (targets.take settings.maxRedirects)
            (.error (.redirectLimit settings.maxRedirects)))) := by
  exact ⟨send_asked_length_le, send_unsendable, fun sendable _ _ _ leads web =>
    ⟨fun within _ _ asks ends => leads.follows sendable web within asks ends,
      leads.follows_take sendable web⟩⟩

/-- A network that answers with redirects to these places, and then with none. -/
def redirecting : HttpNetwork (List String) where
  exchange
    | [], _ => ([], some {})
    | place :: places, _ => (places, some { status := 302, location := some place })

/-- There and back again is two redirects, and too many where one is the limit. -/
theorem send_redirects_there_and_back :
    let url (name : String) : Url :=
      ⟨"https", "", "", some (.domain name), none, .segments [""], none, none⟩
    let state : HttpState (List String) := ⟨["//b", "//a/"], [], 0⟩
    redirecting.Follows { maxRedirects := 2 } state (.get (url "a")) [url "b", url "a"]
      (.ok ⟨200, url "a", []⟩) ∧
    redirecting.Follows { maxRedirects := 1 } state (.get (url "a")) [url "b"]
      (.error (.redirectLimit 1)) := by
  intro url state
  have leads : redirecting.Leads state (HttpRequest.get (url "a")).wire [url "b", url "a"]
      ⟨[], [], 0⟩ { method := .get, url := url "a" } :=
    .hop rfl (by decide +kernel) (.hop rfl (by decide +kernel) .here)
  have parsed : ∀ name ∈ ["a", "b"], Url.parse ("https://" ++ name) = some (url name) := by
    decide +kernel
  have web : ∀ target ∈ [url "b", url "a"], target.IsWeb :=
    List.forall_mem_cons.mpr ⟨.parsed (parsed "b" (by decide)) (.inr rfl),
      List.forall_mem_singleton.mpr (.parsed (parsed "a" (by decide)) (.inr rfl))⟩
  have within := (send_redirects redirecting { maxRedirects := 2 } state (.get (url "a"))).2.2 rfl _
    _ _ leads web
  have beyond := (send_redirects redirecting { maxRedirects := 1 } state (.get (url "a"))).2.2 rfl _
    _ _ leads web
  exact ⟨within.1 (by decide) _ _ rfl rfl, beyond.2 (by decide)⟩

end HttpNetwork
end WlanAdmin
