import WlanAdmin.Client.Call
import WlanAdmin.Client.Connection
import WlanAdmin.Proofs.Session.History

/-!
# WlanAdmin.Proofs.Session.Requests

Requests are made of what the session knows at the moment they are sent, however long the operation
has waited before and whatever has happened in between.

* `Timely` : the request of an operation is of its moment.
* `Grant.stored` : a token that an operation goes on with is the stored one.
* `run_sent_timely` : every request of every run is of its moment.
-/

namespace WlanAdmin
namespace Session

/-- A request that an operation has just sent is made of what the session knows now: its own one
carries the stored token to the stored host, and a login carries the stored credentials there, with
the stored token if there is one. -/
inductive Timely (s : Session) : Task → HttpRequest → Prop where
  | post {path : String} {body : Bytes} {url : Url} {login : LoginResult} :
      s.context.login = some login → login.csrfToken ≠ "" →
      endpoint s.scheme s.context.host path = .ok url →
      Timely s ⟨.post path body, .sending⟩ ((HttpRequest.post url body).withToken login.csrfToken)
  | get {path : String} {limit : Nat} {url : Url} {login : LoginResult} :
      s.context.login = some login → login.csrfToken ≠ "" →
      endpoint s.scheme s.context.host path = .ok url →
      Timely s ⟨.get path limit, .sending⟩
        (((HttpRequest.get url).withToken login.csrfToken).withLimit limit)
  | login {goal : Goal} {url : Url} : endpoint s.scheme s.context.host loginPath = .ok url →
      Timely s ⟨goal, .loggingIn⟩
        { HttpRequest.post url s.context.credentials.form with
          bodyLimit := loginBodyLimit, csrfToken := s.context.login.map LoginResult.csrfToken }
  /-- A request that is sent as it is. -/
  | plain {request : HttpRequest} : Timely s ⟨.send request, .sending⟩ request

theorem Timely.of_context {s s' : Session} {task : Task} {request : HttpRequest}
    (h : Timely s task request) (hc : s'.context = s.context) (hs : s'.scheme = s.scheme) :
    Timely s' task request := by
  cases h with
  | post hl hn hu => exact .post (by rw [hc, hl]) hn (by rw [hc, hs, hu])
  | get hl hn hu => exact .get (by rw [hc, hl]) hn (by rw [hc, hs, hu])
  | @login goal url hu =>
    have moved : Timely s' ⟨goal, .loggingIn⟩ _ := .login (by rw [hc, hs, hu])
    rw [hc] at moved
    exact moved
  | plain => exact .plain

theorem token?_stored {context : Context} {token : String} (h : context.token? = some token) :
    ∃ login, context.login = some login ∧ login.csrfToken = token ∧ token ≠ "" := by
  obtain ⟨mapped, nonempty⟩ := Option.filter_eq_some_iff.mp h
  obtain ⟨login, stored, rfl⟩ := Option.map_eq_some_iff.mp mapped
  exact ⟨login, stored, rfl, by simpa using nonempty⟩

theorem cachedToken_stored {s : Session} {token : String} (h : s.cachedToken = some token) :
    ∃ login, s.context.login = some login ∧ login.csrfToken = token ∧ token ≠ "" := by
  unfold cachedToken Context.cachedToken at h
  split at h
  · rename_i _ _ found _
    split at h
    · cases h
      exact token?_stored found
    · cases h
  · cases h

/-- No token is cached before the first login, nor while there is no cookie for the current host. -/
theorem cachedToken_eq_none_iff {s : Session} {root : Url}
    (host : endpoint s.scheme s.context.host "/" = .ok root)
    (nonempty : ∀ login, s.context.login = some login → login.csrfToken ≠ "") :
    s.cachedToken = none ↔ s.context.login = none ∨ s.holds root = false := by
  cases stored : s.context.login with
  | none => simp [cachedToken, Context.cachedToken, Context.token?, stored]
  | some login =>
    have token : s.context.token? = some login.csrfToken := by
      simp [Context.token?, stored, Option.filter, nonempty login stored]
    simp [cachedToken, Context.cachedToken, token, host]

/-- The token that an operation goes on with is the stored one, whether it was cached or is that of
its own login. -/
theorem Grant.stored {s s' : Session} {id : TaskId} {goal : Goal} {event : Event} {token : String}
    (grant : Grant s id goal event s' token) :
    ∃ login, s'.context.login = some login ∧ login.csrfToken = token ∧ token ≠ "" := by
  cases grant with
  | cached _ _ hc => exact cachedToken_stored hc
  | handed _ _ hc => exact cachedToken_stored hc
  | @loggedIn answer result h _ hr =>
    have hg : s.gains (.answer id answer) = some result := by
      simp only [gains, h, hr, Except.toOption]
    exact ⟨result, rfl, rfl, (gains_token hg).1⟩

theorem url_ok {s : Session} {path : String} {url : Url} (h : s.url path = .ok url) :
    endpoint s.scheme s.context.host path = .ok url := by
  unfold Session.url at h
  split at h
  · rename_i found
    cases h
    exact found
  · cases h

theorem ownRequest_timely {s : Session} {token : String} {goal : Goal} {request : HttpRequest}
    (stored : ∃ login, s.context.login = some login ∧ login.csrfToken = token ∧ token ≠ "")
    (h : s.ownRequest token goal = some (.ok request)) : Timely s ⟨goal, .sending⟩ request := by
  obtain ⟨login, hl, rfl, hne⟩ := stored
  obtain ⟨path, body, url, rfl, hu, rfl⟩ | ⟨path, limit, url, rfl, hu, rfl⟩ | rfl :=
    ownRequest_cases h
  · exact .post hl hne (url_ok hu)
  · exact .get hl hne (url_ok hu)
  · exact .plain

theorem loginRequest_timely {s : Session} (goal : Goal) {request : HttpRequest}
    (nonempty : ∀ login, s.context.login = some login → login.csrfToken ≠ "")
    (h : s.context.loginRequest s.scheme = .ok request) :
    Timely s ⟨goal, .loggingIn⟩ request := by
  have token : s.context.token? = s.context.login.map LoginResult.csrfToken := by
    unfold Context.token?
    cases hl : s.context.login with
    | none => rfl
    | some login => simp [nonempty login hl]
  obtain ⟨url, hu, rfl⟩ := loginRequest_ok h
  rw [token]
  exact .login hu

/-- What a move sends is of its moment, and comes from an operation that was under way. -/
theorem Move.sent_timely {s : Session} {event : Event} {moved : Moved} (move : Move s event moved)
    (nonempty : ∀ login, s.context.login = some login → login.csrfToken ≠ "")
    {id : TaskId} {request : HttpRequest} (sent : Output.sent id request ∈ moved.2) :
    ∃ goal before after, s.task? id = some ⟨goal, before⟩ ∧
      moved.1.task? id = some ⟨goal, after⟩ ∧ Timely moved.1 ⟨goal, after⟩ request := by
  cases move with
  | @logsIn other goal s' entry =>
    obtain ⟨login, hl, h⟩ | ⟨error, h⟩ := startLogin_cases s' other goal
    · rw [h] at sent ⊢
      simp only [List.mem_singleton, Output.sent.injEq] at sent
      obtain ⟨rfl, rfl⟩ := sent
      obtain ⟨stage, hb⟩ := entry.underWay
      refine ⟨goal, stage, .loggingIn, hb, ?_, ?_⟩
      · exact (task?_setTask s' id id _).trans (if_pos rfl)
      · exact (loginRequest_timely goal (entry.context_eq ▸ nonempty) hl).of_context rfl rfl
    · rw [h] at sent
      simp [finish] at sent
  | @granted other goal event s' token grant =>
    obtain ⟨own, ho, h⟩ | ⟨outcome, h⟩ := withToken_cases s' other goal token
    · rw [h] at sent ⊢
      simp only [List.mem_singleton, Output.sent.injEq] at sent
      obtain ⟨rfl, rfl⟩ := sent
      obtain ⟨stage, hb⟩ := grant.underWay
      refine ⟨goal, stage, .sending, hb, by simp, ?_⟩
      exact (ownRequest_timely grant.stored ho).of_context rfl rfl
    · rw [h] at sent
      simp [finish] at sent
  | @passed other plain hb =>
    simp only [List.mem_singleton, Output.sent.injEq] at sent
    obtain ⟨rfl, rfl⟩ := sent
    exact ⟨.send request, .fresh, .sending, hb, by simp, .plain⟩
  | _ => simp [finish] at sent

/-- Whatever has happened to a session, a request that it sends is made of what it knows at that
moment. The login it knows is the one that succeeded last, if one has. -/
theorem run_sent_timely (scheme : Scheme) (refresh : Refresh) (host : String)
    (credentials : Credentials) (holds : Url → Bool) (events : List Event) (event : Event)
    (id : TaskId) (request : HttpRequest) :
    let start := opened scheme refresh host credentials holds
    let s := (start.run events).1
    let moved := s.step event
    Output.sent id request ∈ moved.2 →
      (∃ goal before after, s.task? id = some ⟨goal, before⟩ ∧
        moved.1.task? id = some ⟨goal, after⟩ ∧ Timely moved.1 ⟨goal, after⟩ request) ∧
      moved.1.scheme = scheme ∧
      moved.1.context.login = (start.logins (events ++ [event])).getLast? := by
  intro start s moved sent
  have known : s.context.login = (start.logins events).getLast? := by
    rw [run_login]
    exact Option.or_none
  refine ⟨(step_move s event).sent_timely (fun login hl => ?_) sent, ?_, ?_⟩
  · rw [known] at hl
    exact (logins_token (List.mem_of_getLast? hl)).1
  · exact (run_append start events [event]) ▸ (run_settings start (events ++ [event])).1
  · have := run_login start (events ++ [event])
    rw [run_append] at this
    exact this.trans Option.or_none

theorem mem_requests {outputs : List Output} {id : TaskId} {request : HttpRequest} :
    (id, request) ∈ Connection.requests outputs ↔ Output.sent id request ∈ outputs := by
  simp only [Connection.requests, List.mem_filterMap]
  constructor
  · rintro ⟨output, ho, h⟩
    cases output with
    | sent other sent => cases h; exact ho
    | finished other outcome => cases h
  · exact fun h => ⟨_, h, rfl⟩

/-- An envelope that has logged in itself. -/
theorem run_sent_timely_own_login :
    let start := opened .https .singleFlight "h" ⟨"u", "p"⟩ fun _ => false
    let events : List Event := [.start 0 (.post confPath []), .poll 0]
    let page := HttpResponse.mk 200 ⟨"https", "", "", none, none, .segments [], none, none⟩
      (utf8 "<script>var csfrToken = 'a';</script>")
    let request := (HttpRequest.post ⟨"https", "", "", some (.domain "h"), none,
      .segments ["admin", "_conf.jsp"], none, none⟩ []).withToken "a"
    let moved := (start.run events).1.step (.answer 0 (.ok page))
    Output.sent 0 request ∈ moved.2 ∧
      ∃ goal after,
        moved.1.task? 0 = some ⟨goal, after⟩ ∧ Timely moved.1 ⟨goal, after⟩ request := by
  intro start events page request moved
  have sent : Output.sent 0 request ∈ moved.2 := mem_requests.mp (by decide +kernel)
  obtain ⟨⟨goal, _, after, -, ha, ht⟩, -, -⟩ :=
    run_sent_timely .https .singleFlight "h" ⟨"u", "p"⟩ (fun _ => false) events
      (.answer 0 (.ok page)) 0 request sent
  exact ⟨sent, goal, after, ha, ht⟩

end Session
end WlanAdmin
