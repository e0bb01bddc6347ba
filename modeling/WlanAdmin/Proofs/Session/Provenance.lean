import WlanAdmin.Proofs.Session.Requests
import WlanAdmin.Proofs.Session.SingleFlight

/-!
# WlanAdmin.Proofs.Session.Provenance

Where the token of a request comes from. A token is cached as long as the current host holds a
cookie, whichever login gave it: it stays that of the last login, also where the session has moved
to another host since, and also where it has been found stale.

* `exists_last_login` : the event with which the stored login succeeded.
* `cachedToken_host_iff` : when the cached token is one of the current host.
* `Move.sendsOwn` : an operation sends its own request with the token that is stored.
* `sent_after_stale` : the token of requests that follow once one has been found stale.
-/

namespace WlanAdmin

/-- A page was answered by the host that a session keeps under this name. -/
def HttpResponse.IsFrom (page : HttpResponse) (scheme : Scheme) (host : String) : Prop :=
  ∃ root, endpoint scheme host "/" = .ok root ∧ page.url.authority = root.authority

namespace Session

/-! ## The host that gave a token -/

/-- The stored login succeeded with some event of the run, and none has succeeded since. -/
theorem exists_last_login {s : Session} {events : List Event} {login : LoginResult}
    (h : (s.logins events).getLast? = some login) :
    ∃ before event after, events = before ++ event :: after ∧
      (s.run before).1.gains event = some login ∧
      ((s.run before).1.step event).1.logins after = [] := by
  induction events generalizing s with
  | nil => cases h
  | cons event rest ih =>
    cases later : (s.step event).1.logins rest with
    | nil =>
      refine ⟨[], event, rest, rfl, ?_, later⟩
      change s.gains event = some login
      simp only [logins, later, List.append_nil] at h
      cases hg : s.gains event with
      | none => simp [hg] at h
      | some gained => simpa [hg] using h
    | cons first others =>
      have last : ((s.step event).1.logins rest).getLast? = some login := by
        simpa [logins, later, List.getLast?_append] using h
      obtain ⟨before, found, after, rfl, hg, none_later⟩ := ih last
      exact ⟨event :: before, found, after, rfl, hg, none_later⟩

/-- A cached token is that of the login that succeeded last. The page it was taken from is one of
the current host exactly if the host that answered is the one to which the last redirect since then
leads, or the host of that moment where none was reported; cookies tell nothing of it. -/
theorem cachedToken_host_iff (scheme : Scheme) (refresh : Refresh) (host : String)
    (credentials : Credentials) (holds : Url → Bool) (events : List Event) {token : String}
    (cached : ((opened scheme refresh host credentials holds).run events).1.cachedToken =
      some token) :
    let start := opened scheme refresh host credentials holds
    let s := (start.run events).1
    ∃ before id page after, events = before ++ .answer id (.ok page) :: after ∧
      (∃ goal login, (start.run before).1.task? id = some ⟨goal, .loggingIn⟩ ∧
        readLogin page.body = .ok login ∧ login.csrfToken = token) ∧
      ((start.run before).1.step (.answer id (.ok page))).1.logins after = [] ∧
      (page.IsFrom scheme s.context.host ↔ page.IsFrom scheme
        ((after.filterMap Event.host?).getLast?.getD (start.run before).1.context.host)) := by
  intro start s
  obtain ⟨login, stored, rfl, -⟩ := cachedToken_stored cached
  have last : (start.logins events).getLast? = some login := by
    rw [← stored, run_login]
    exact Option.or_none.symm
  obtain ⟨before, event, after, split, gained, none_later⟩ := exists_last_login last
  obtain ⟨id, goal, page, rfl, task, read⟩ := gains_iff.mp gained
  refine ⟨before, id, page, after, split, ⟨goal, login, task, read, rfl⟩, none_later, ?_⟩
  have moved : s.context.host =
      (after.filterMap Event.host?).getLast?.getD (start.run before).1.context.host := by
    change (start.run events).1.context.host = _
    rw [split, run_append, run_host]
    rfl
  rw [moved]

/-- The login is redirected from `a` to `b` before `b` answers it, and `b` has a cookie. -/
theorem cachedToken_host_iff_redirected_login :
    let holds : Url → Bool := fun url => url.host = some (.domain "b")
    let start := opened .https .concurrent "a" ⟨"u", "p"⟩ holds
    let page : HttpResponse := ⟨200,
      ⟨"https", "", "", some (.domain "b"), none, .segments ["login"], none, none⟩,
      utf8 "<script>var csfrToken = 't';</script>"⟩
    let events : List Event :=
      [.start 0 .login, .poll 0, .redirected "b", .answer 0 (.ok page)]
    (start.run events).1.cachedToken = some "t" ∧
      ∃ before id page after, events = before ++ .answer id (.ok page) :: after ∧
        (∃ goal login, (start.run before).1.task? id = some ⟨goal, .loggingIn⟩ ∧
          readLogin page.body = .ok login ∧ login.csrfToken = "t") ∧
        ((start.run before).1.step (.answer id (.ok page))).1.logins after = [] ∧
        (page.IsFrom .https (start.run events).1.context.host ↔ page.IsFrom .https
          ((after.filterMap Event.host?).getLast?.getD (start.run before).1.context.host)) := by
  intro holds start page events
  have cached : (start.run events).1.cachedToken = some "t" := by decide +kernel
  -- nothing further is to be computed of the run
  clear_value events
  exact ⟨cached, cachedToken_host_iff .https .concurrent "a" ⟨"u", "p"⟩ holds events cached⟩

/-- A token is cached that no page of the current host has given: after a login at `a`, a request is
redirected to `b`, and its answer sets a cookie there. -/
theorem cachedToken_of_other_host :
    let start := opened .https .concurrent "a" ⟨"u", "p"⟩ fun _ => false
    let page (host path body : String) : HttpResponse :=
      ⟨200, ⟨"https", "", "", some (.domain host), none, .segments [path], none, none⟩, utf8 body⟩
    let events : List Event :=
      [.start 0 .login, .poll 0, .cookies fun url => url.host = some (.domain "a"),
        .answer 0 (.ok (page "a" "login" "<script>var csfrToken = 't';</script>")),
        .start 1 (.get "/x" 1), .poll 1, .redirected "b",
        .cookies fun url => url.host = some (.domain "b"), .answer 1 (.ok (page "b" "x" ""))]
    let s := (start.run events).1
    s.cachedToken = some "t" ∧ s.context.host = "b" ∧
      ¬ ∃ id page login, Event.answer id (.ok page) ∈ events ∧ readLogin page.body = .ok login ∧
        login.csrfToken = "t" ∧ page.IsFrom .https s.context.host := by
  intro start page events s
  have host : s.context.host = "b" := by decide +kernel
  refine ⟨by decide +kernel, host, ?_⟩
  rintro ⟨id, answered, login, mem, read, -, root, hr, from_root⟩
  have root_b : (endpoint .https "b" "/").toOption.bind Url.authority = some "b" := by
    decide +kernel
  rw [host] at hr
  simp only [hr, Except.toOption, Option.bind_some] at root_b
  rw [root_b] at from_root
  simp only [events, List.mem_cons, reduceCtorEq, Event.answer.injEq, Except.ok.injEq, false_or,
    List.not_mem_nil, or_false] at mem
  rcases mem with ⟨-, rfl⟩ | ⟨-, rfl⟩
  · -- the page of the login, which is not from here
    exact absurd from_root (by decide +kernel)
  · -- a page from here, which gives no token
    have unread : (readLogin (page "b" "x" "").body).toOption = none := by decide +kernel
    rw [read] at unread
    cases unread

/-! ## Tokens that have been found stale -/

theorem logins_append (s : Session) (before after : List Event) :
    s.logins (before ++ after) = s.logins before ++ (s.run before).1.logins after := by
  induction before generalizing s with
  | nil => rfl
  | cons event rest ih => simp [logins, run, ih]

/-- An operation finds that the stored token is not cached, and logs in for that. -/
structure FindsStale (s : Session) (id : TaskId) (token : String) : Prop where
  stored : s.context.token? = some token
  stale : s.cachedToken = none
  logsIn : (s.step (.poll id)).1.LoggingIn id ∧ ¬ s.LoggingIn id

/-- An operation that wants a token sends its own request with an event. -/
def SendsOwn (s : Session) (event : Event) (id : TaskId) (request : HttpRequest) : Prop :=
  Output.sent id request ∈ (s.step event).2 ∧
    ∃ goal, goal.wantsToken = true ∧ (s.step event).1.task? id = some ⟨goal, .sending⟩

theorem ownRequest_token {s : Session} {token : String} {goal : Goal} {request : HttpRequest}
    (h : s.ownRequest token goal = some (.ok request)) (hg : goal.wantsToken = true) :
    request.csrfToken = some token := by
  obtain ⟨path, body, url, rfl, -, rfl⟩ | ⟨path, limit, url, rfl, -, rfl⟩ | rfl :=
    ownRequest_cases h
  · rfl
  · rfl
  · cases hg

/-- An operation sends its own request because it has come by a token, and with that token. -/
theorem Move.sendsOwn {s : Session} {event : Event} {moved : Moved} (move : Move s event moved)
    {id : TaskId} {request : HttpRequest} {goal : Goal} (sent : Output.sent id request ∈ moved.2)
    (wants : goal.wantsToken = true) (task : moved.1.task? id = some ⟨goal, .sending⟩) :
    ∃ (s' : Session) (token : String), Grant s id goal event s' token ∧
      moved = s'.withToken id goal token ∧ request.csrfToken = some token := by
  cases move with
  | @logsIn other begun s' entry =>
    obtain ⟨login, -, h⟩ | ⟨error, h⟩ := startLogin_cases s' other begun
    · rw [h] at sent task
      simp only [List.mem_singleton, Output.sent.injEq] at sent
      obtain ⟨rfl, rfl⟩ := sent
      cases (task.symm.trans ((task?_setTask s' id id _).trans (if_pos rfl)))
    · rw [h] at sent
      simp [finish] at sent
  | @granted other granted event s' token grant =>
    obtain ⟨own, ho, h⟩ | ⟨outcome, h⟩ := withToken_cases s' other granted token
    · have made := h
      rw [h] at sent task
      simp only [List.mem_singleton, Output.sent.injEq] at sent
      obtain ⟨rfl, rfl⟩ := sent
      cases (task.symm.trans ((task?_setTask s' id id _).trans (if_pos rfl)))
      exact ⟨s', token, grant, rfl, ownRequest_token ho wants⟩
    · rw [h] at sent
      simp [finish] at sent
  | @passed other plain h =>
    simp only [List.mem_singleton, Output.sent.injEq] at sent
    obtain ⟨rfl, rfl⟩ := sent
    cases (task.symm.trans ((task?_setTask s id id _).trans (if_pos rfl)))
    cases wants
  | _ => simp [finish] at sent

/-- The token of an own request is that of the login that is stored when it is sent; it was cached,
unless a login has succeeded with the very event. -/
theorem SendsOwn.token {s : Session} {event : Event} {id : TaskId} {request : HttpRequest}
    (sends : s.SendsOwn event id request) :
    ∃ login, (s.step event).1.context.login = some login ∧
      request.csrfToken = some login.csrfToken ∧
      (s.gains event = none → s.cachedToken = some login.csrfToken) := by
  obtain ⟨sent, goal, wants, task⟩ := sends
  obtain ⟨s', token, grant, moved, carried⟩ := (step_move s event).sendsOwn sent wants task
  have cached : s.gains event = none → s.cachedToken = some token := by
    intro none_gained
    cases grant with
    | cached _ _ hc => exact hc
    | handed _ _ hc => exact hc
    | loggedIn ht _ hr => simp [gains, ht, hr, Except.toOption] at none_gained
  obtain ⟨login, stored, rfl, -⟩ := grant.stored
  exact ⟨login, by rw [moved, withToken_context, stored], carried, cached⟩

/-- Once a token has been found stale, an own request carries the token of the login that has
succeeded last since then; before one has, it carries the stale token again, if the current host
holds a cookie by then. So the stale token comes back without a login page that gives it exactly if
the request is sent before a login has succeeded. -/
theorem sent_after_stale (scheme : Scheme) (refresh : Refresh) (host : String)
    (credentials : Credentials) (holds : Url → Bool) (before after : List Event) (event : Event)
    (id other : TaskId) {token : String} {request : HttpRequest} :
    let start := opened scheme refresh host credentials holds
    let found := (start.run before).1
    let s := (start.run (before ++ .poll id :: after)).1
    let since := found.logins (.poll id :: after ++ [event])
    found.FindsStale id token → s.SendsOwn event other request →
      request.csrfToken = some ((since.getLast?.map LoginResult.csrfToken).getD token) ∧
      ((request.csrfToken = some token → ∃ login ∈ since, login.csrfToken = token) ↔
        since ≠ []) ∧
      (since = [] → s.cachedToken = some token) := by
  intro start found s since stale sends
  obtain ⟨login, stored, carried, cached⟩ := sends.token
  obtain ⟨old, old_stored, rfl, -⟩ := token?_stored stale.stored
  have here : s = (found.run (.poll id :: after)).1 := run_append start before _
  have last : since.getLast?.or (some old) = some login := by
    rw [← old_stored, ← run_login, run_append, ← here, ← stored]
    rfl
  have no_gain : since = [] → s.gains event = none := by
    intro empty
    have tail : (found.run (.poll id :: after)).1.logins [event] = [] := by
      have := empty
      simp only [since, logins_append, List.append_eq_nil_iff] at this
      exact this.2
    rw [← here] at tail
    simpa [logins] using tail
  cases hs : since.getLast? with
  | none =>
    have empty : since = [] := List.getLast?_eq_none_iff.mp hs
    rw [hs] at last
    cases last
    refine ⟨carried, ?_, fun _ => cached (no_gain empty)⟩
    simp [empty, carried]
  | some newest =>
    have among : newest ∈ since := List.mem_of_getLast? hs
    rw [hs] at last
    cases last
    refine ⟨carried, ⟨fun _ => List.ne_nil_of_mem among, fun _ same => ?_⟩, fun empty => ?_⟩
    · exact ⟨login, among, Option.some.inj (carried.symm.trans same)⟩
    · rw [empty] at among
      cases among

theorem FindsStale.of_fresh {s : Session} {id : TaskId} {token : String} (goal : Goal)
    (stored : s.context.token? = some token) (stale : s.cachedToken = none)
    (wants : goal.wantsToken = true) (fresh : s.task? id = some ⟨goal, .fresh⟩)
    (logs_in : (s.step (.poll id)).1.task? id = some ⟨goal, .loggingIn⟩) :
    s.FindsStale id token :=
  ⟨stored, stale, ⟨goal, wants, logs_in⟩, fun ⟨_, _, here⟩ => by rw [fresh] at here; cases here⟩

/-- The token has been found stale, and the login that followed gives another. -/
theorem sent_after_stale_new_login :
    let page (token : String) : Except TransportError HttpResponse :=
      .ok ⟨200, ⟨"https", "", "", some (.domain "a"), none, .segments [], none, none⟩,
        utf8 ("<script>var csfrToken = '" ++ token ++ "';</script>")⟩
    let start := opened .https .concurrent "a" ⟨"u", "p"⟩ fun _ => false
    let before : List Event :=
      [.start 0 .login, .poll 0, .answer 0 (page "t"), .start 1 (.get "/x" 1)]
    let found := (start.run before).1
    let s := (start.run (before ++ [.poll 1])).1
    let request := ((HttpRequest.get
      ⟨"https", "", "", some (.domain "a"), none, .segments ["x"], none, none⟩).withToken
        "n").withLimit 1
    found.FindsStale 1 "t" ∧ s.SendsOwn (.answer 1 (page "n")) 1 request ∧
      found.logins [.poll 1, .answer 1 (page "n")] ≠ [] := by
  intro page start before found s request
  have stale : found.FindsStale 1 "t" :=
    .of_fresh (.get "/x" 1) (by decide +kernel) (by decide +kernel) rfl
      (by decide +kernel) (by decide +kernel)
  have sends : s.SendsOwn (.answer 1 (page "n")) 1 request :=
    ⟨mem_requests.mp (by decide +kernel), .get "/x" 1, rfl, by decide +kernel⟩
  obtain ⟨-, kept, -⟩ := sent_after_stale .https .concurrent "a" ⟨"u", "p"⟩ (fun _ => false) before
    [] (.answer 1 (page "n")) 1 1 stale sends
  exact ⟨stale, sends, kept.mp fun same => absurd same (by decide)⟩

/-- A stale token comes back: the login that it made necessary is refused, but the page that refuses
it sets a cookie, and the next request carries the token again. -/
theorem stale_token_sent_again :
    let answer (body : String) : Except TransportError HttpResponse :=
      .ok ⟨200, ⟨"https", "", "", some (.domain "a"), none, .segments [], none, none⟩, utf8 body⟩
    let start := opened .https .concurrent "a" ⟨"u", "p"⟩ fun _ => false
    let before : List Event :=
      [.start 0 .login, .poll 0, .cookies fun _ => true,
        .answer 0 (answer "<script>var csfrToken = 't';</script>"), .cookies fun _ => false,
        .start 1 .token]
    let after : List Event :=
      [.cookies fun _ => true, .answer 1 (answer "<meta http-equiv='X-Auth' content='no'>"),
        .start 2 (.get "/x" 1)]
    let found := (start.run before).1
    let s := (start.run (before ++ .poll 1 :: after)).1
    let request := ((HttpRequest.get
      ⟨"https", "", "", some (.domain "a"), none, .segments ["x"], none, none⟩).withToken
        "t").withLimit 1
    found.FindsStale 1 "t" ∧ s.SendsOwn (.poll 2) 2 request ∧ request.csrfToken = some "t" ∧
      found.logins (.poll 1 :: after ++ [.poll 2]) = [] := by
  intro answer start before after found s request
  refine ⟨.of_fresh .token (by decide +kernel) (by decide +kernel) rfl
    (by decide +kernel) (by decide +kernel), ?_, rfl, by decide +kernel⟩
  exact ⟨mem_requests.mp (by decide +kernel), .get "/x" 1, rfl, by decide +kernel⟩

end Session
end WlanAdmin
