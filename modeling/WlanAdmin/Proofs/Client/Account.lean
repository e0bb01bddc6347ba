import WlanAdmin.Proofs.Client.Course
import WlanAdmin.Proofs.Session.Apart
import WlanAdmin.Proofs.Session.Provenance

/-!
# WlanAdmin.Proofs.Client.Account

What a call hands over: a login at most, and a request of its own at most, which comes once there is
a token. Nothing is tried again, and a login is handed over only while no token is cached.

* `Account` : the trails that a call can leave, whatever the host is.
* `Account.requests_split`, `Account.first` : the requests of such a trail, and what comes before.
* `OnAccount.step`, `OnAccount.run` : every run leaves every call such a trail.
* `OnAccount.sent_moment` : what a call has found at the moment when it hands over a request.
* `OnAccount.login_iff` : when a call logs in that runs by itself.
* `run_accounted` : how often calls log in.
-/

namespace WlanAdmin

/-- The request that is handed over, if it is that what happens. -/
def Leg.request? {α : Type} : Leg α → Option HttpRequest
  | .sent request => some request
  | _ => none

namespace Call

variable {α : Type} {call : Call α} {scheme : Scheme} {id : TaskId} {s : Session}
  {stage : Option Stage} {trail before after : List (Leg α)}

/-- The requests that a call hands over. -/
def requests (trail : List (Leg α)) : List HttpRequest := trail.filterMap Leg.request?

@[simp] theorem requests_append (front rest : List (Leg α)) :
    requests (front ++ rest) = requests front ++ requests rest := List.filterMap_append

@[simp] theorem requests_sent (request : HttpRequest) (rest : List (Leg α)) :
    requests (.sent request :: rest) = request :: requests rest := rfl

@[simp] theorem requests_answered (answer : Except TransportError HttpResponse)
    (rest : List (Leg α)) : requests (.answered answer :: rest) = requests rest := rfl

@[simp] theorem requests_gave (result : Except ClientError α) (rest : List (Leg α)) :
    requests (.gave result :: rest) = requests rest := rfl

@[simp] theorem requests_dropped (rest : List (Leg α)) :
    requests (.dropped :: rest) = requests rest := rfl

@[simp] theorem requests_nil : requests ([] : List (Leg α)) = [] := rfl

/-- How far a call is, if it is still under way, and what has happened to it. -/
inductive Account (call : Call α) (scheme : Scheme) : Option Stage → List (Leg α) → Prop where
  | waiting {stage : Stage} : stage = .fresh ∨ stage = .queued →
      Account call scheme (some stage) []
  | loggingIn {request : HttpRequest} : IsLogin scheme request →
      Account call scheme (some .loggingIn) [.sent request]
  | refused {request : HttpRequest} {answer : Except TransportError HttpResponse}
      {result : Except ClientError α} : IsLogin scheme request →
      Account call scheme none [.sent request, .answered answer, .gave result]
  | sending {before : List (Leg α)} {request : HttpRequest} : Admitted scheme before →
      call.IsOwn scheme request →
      Account call scheme (some .sending) (before ++ [.sent request])
  /-- It ends without a request of its own: there is no URL to send one to, or it wants none. -/
  | ended {before : List (Leg α)} {result : Except ClientError α} : Admitted scheme before →
      Account call scheme none (before ++ [.gave result])
  | done {before : List (Leg α)} {request : HttpRequest}
      {answer : Except TransportError HttpResponse} {result : Except ClientError α} :
      Admitted scheme before → call.IsOwn scheme request →
      Account call scheme none (before ++ [.sent request, .answered answer, .gave result])
  | dropped {stage : Stage} {trail : List (Leg α)} : Account call scheme (some stage) trail →
      Account call scheme none (trail ++ [.dropped])

/-! ## The requests of a trail -/

/-- Some logins, one at most, and then some own requests, one at most. -/
def Split (call : Call α) (scheme : Scheme) (requests : List HttpRequest) : Prop :=
  ∃ logins own, requests = logins ++ own ∧ logins.length ≤ 1 ∧ own.length ≤ 1 ∧
    (∀ request ∈ logins, IsLogin scheme request) ∧ ∀ request ∈ own, call.IsOwn scheme request

theorem Split.none : call.Split scheme [] := ⟨[], [], rfl, by simp, by simp, by simp, by simp⟩

theorem Split.login {request : HttpRequest} (login : IsLogin scheme request) :
    call.Split scheme [request] := ⟨[request], [], rfl, by simp, by simp, by simpa, by simp⟩

theorem Admitted.split (admitted : Admitted scheme before) :
    call.Split scheme (requests before) := by
  cases admitted with
  | cached => exact .none
  | loggedIn login _ => exact .login login

theorem Admitted.split_own (admitted : Admitted scheme before) {request : HttpRequest}
    (own : call.IsOwn scheme request) : call.Split scheme (requests before ++ [request]) := by
  cases admitted with
  | cached => exact ⟨[], [request], rfl, by simp, by simp, by simp, by simpa⟩
  | @loggedIn first _ login _ =>
    exact ⟨[first], [request], rfl, by simp, by simp, by simpa, by simpa⟩

/-- A call hands over a login at most, and then a request of its own at most. -/
theorem Account.requests_split (account : Account call scheme stage trail) :
    call.Split scheme (requests trail) := by
  induction account with
  | waiting _ => exact .none
  | loggingIn login => exact .login login
  | refused login => exact .login login
  | sending admitted own => simpa using admitted.split_own own
  | ended admitted => simpa using admitted.split
  | done admitted own => simpa using admitted.split_own own
  | dropped _ ih => simpa using ih

/-- What comes before a request: nothing, or a login that passed, and then the request is the own
one of the call. -/
def Due (call : Call α) (scheme : Scheme) (before : List (Leg α)) (request : HttpRequest) : Prop :=
  Admitted scheme before ∧ (before ≠ [] → call.IsOwn scheme request)

theorem Due.first (request : HttpRequest) : call.Due scheme [] request := ⟨.cached, absurd rfl⟩

/-- A request stands before a tail in which none is handed over. -/
theorem split_of_silent {front tail : List (Leg α)} {request : HttpRequest}
    (silent : requests tail = []) (split : front ++ tail = before ++ .sent request :: after) :
    ∃ rest, front = before ++ .sent request :: rest := by
  rcases List.append_eq_append_iff.mp split with ⟨more, -, inside⟩ | ⟨more, front_eq, rest_eq⟩
  · -- the request is part of the tail
    rw [inside, requests_append, requests_sent] at silent
    cases (List.append_eq_nil_iff.mp silent).2
  · cases more with
    | nil =>
      rw [List.nil_append] at rest_eq
      rw [← rest_eq, requests_sent] at silent
      cases silent
    | cons first rest =>
      cases rest_eq
      exact ⟨rest, front_eq⟩

/-- What admits a call begins with its only request. -/
theorem Admitted.begins {front : List (Leg α)} (admitted : Admitted scheme front)
    {request : HttpRequest} (split : front = before ++ .sent request :: after) : before = [] := by
  cases admitted with
  | cached => simp at split
  | loggedIn _ _ => rcases before with _ | ⟨_, _ | ⟨_, _ | ⟨_, before⟩⟩⟩ <;> simp at split ⊢

/-- Behind what admits a call stands its own request. -/
theorem Admitted.due {front : List (Leg α)} (admitted : Admitted scheme front)
    {handed request : HttpRequest} (own : front ≠ [] → call.IsOwn scheme handed)
    (split : front ++ [.sent handed] = before ++ .sent request :: after) :
    call.Due scheme before request := by
  rcases List.eq_nil_or_concat after with rfl | ⟨rest, last, rfl⟩
  · obtain ⟨rfl, last⟩ := List.append_inj' split rfl
    cases last
    exact ⟨admitted, own⟩
  · rw [List.concat_eq_append, ← List.cons_append, ← List.append_assoc] at split
    rw [admitted.begins (List.append_inj' split rfl).1]
    exact .first request

/-- A request is handed over first, or after a login that passed. So nothing follows on an answer
that failed, nor on a result. -/
theorem Account.first (account : Account call scheme stage trail) {request : HttpRequest}
    (split : trail = before ++ .sent request :: after) : call.Due scheme before request := by
  induction account generalizing after with
  | waiting _ => simp at split
  | loggingIn _ => exact Admitted.cached.due (absurd rfl) split
  | @refused login answer result _ =>
    have split : [.sent login] ++ [.answered answer, .gave result] =
        before ++ .sent request :: after := split
    obtain ⟨_, front⟩ := split_of_silent rfl split
    exact Admitted.cached.due (absurd rfl) front
  | sending admitted own => exact admitted.due (fun _ => own) split
  | ended admitted =>
    obtain ⟨_, front⟩ := split_of_silent rfl split
    rw [admitted.begins front]
    exact .first request
  | @done front handed answer result admitted own =>
    have split : front ++ [.sent handed] ++ [.answered answer, .gave result] =
        before ++ .sent request :: after := by simpa using split
    obtain ⟨_, front⟩ := split_of_silent rfl split
    exact admitted.due (fun _ => own) front
  | dropped _ ih =>
    obtain ⟨_, front⟩ := split_of_silent rfl split
    exact ih front

/-! ## The trail of a run -/

/-- A call has left such a trail. -/
def OnAccount (call : Call α) (scheme : Scheme) (id : TaskId) (s : Session)
    (trail : List (Leg α)) : Prop :=
  ∃ stage, s.task? id = stage.map (Task.mk call.goal) ∧ Account call scheme stage trail

theorem Account.trail_nil {stage : Stage} (account : Account call scheme (some stage) trail)
    (waits : stage = .fresh ∨ stage = .queued) : trail = [] := by
  cases account with
  | waiting _ => rfl
  | loggingIn _ => rcases waits with h | h <;> cases h
  | sending _ _ => rcases waits with h | h <;> cases h

/-- What has happened to a call that comes by a token. -/
theorem Account.admitted {stage : Stage} (account : Account call scheme (some stage) trail)
    (here : s.task? id = some ⟨call.goal, stage⟩) {event : Event} {s' : Session} {token : String}
    (grant : s.Grant id call.goal event s' token) :
    Admitted scheme (trail ++ meets id s event) := by
  cases grant with
  | cached h _ _ =>
    cases here.symm.trans h
    rw [account.trail_nil (.inl rfl)]
    exact .cached
  | handed h _ _ =>
    cases here.symm.trans h
    rw [account.trail_nil (.inr rfl)]
    exact .cached
  | loggedIn h _ read =>
    cases here.symm.trans h
    rw [meets_answer here (.inl rfl)]
    cases account with
    | waiting waits => rcases waits with h | h <;> cases h
    | loggingIn login => exact .loggedIn login (loginPasses read)

theorem waits_of_entry {goal : Goal} {stage : Stage} {s' : Session}
    (here : s.task? id = some ⟨goal, stage⟩) (entry : s.Entry id goal s') :
    stage = .fresh ∨ stage = .queued := by
  cases entry with
  | login h => cases here.symm.trans h; exact .inl rfl
  | stale h _ _ _ => cases here.symm.trans h; exact .inl rfl
  | entered h _ _ _ _ => cases here.symm.trans h; exact .inl rfl
  | handed h _ _ => cases here.symm.trans h; exact .inr rfl

theorem meets_idle {stage : Stage} {event : Event} (concerned : event.task? = some id)
    (here : s.task? id = some ⟨call.goal, stage⟩) (idle : s.Idle event) :
    (meets id s event : List (Leg α)) = [] := by
  cases event with
  | answer other answer =>
    cases concerned
    obtain ⟨login, sending⟩ := idle _ here
    simp only at login sending
    simp [meets, Session.awaits, here, login, sending]
  | drop other => cases concerned; cases here.symm.trans idle
  | _ => rfl

theorem Account.step {stage : Stage} (account : Account call scheme (some stage) trail)
    (same : s.scheme = scheme) (here : s.task? id = some ⟨call.goal, stage⟩) {event : Event}
    (concerned : event.task? = some id) {next : Option Stage} {shown : List Output}
    (advance : s.Advance id call.goal stage event next shown) :
    Account call scheme next (trail ++ (meets id s event ++ shown.filterMap (call.leg? id))) := by
  have sent (request : HttpRequest) :
      [Output.sent id request].filterMap (call.leg? id) = [.sent request] := by simp [leg?]
  have finished (outcome : Outcome) :
      [Output.finished id outcome].filterMap (call.leg? id) = [.gave (call.finish outcome)] := by
    simp [leg?]
  cases advance with
  | idle still =>
    rw [meets_idle concerned here still]
    simpa using account
  | queued _ _ _ =>
    rw [account.trail_nil (.inl rfl)]
    exact .waiting (.inr rfl)
  | logsIn entry made =>
    rw [account.trail_nil (waits_of_entry here entry), sent]
    exact .loggingIn ⟨s.context, same ▸ made⟩
  | nowhere entry _ =>
    rw [account.trail_nil (waits_of_entry here entry), finished]
    exact .ended .cached
  | @sends _ _ s' token request grant made =>
    rw [sent, ← List.append_assoc]
    exact .sending (account.admitted here grant) ⟨s, token, same, made⟩
  | unsent grant _ =>
    rw [finished, ← List.append_assoc]
    exact .ended (account.admitted here grant)
  | has grant _ =>
    rw [finished, ← List.append_assoc]
    exact .ended (account.admitted here grant)
  | refused _ =>
    rw [finished, meets_answer here (.inl rfl)]
    cases account with
    | waiting waits => rcases waits with h | h <;> cases h
    | loggingIn login => exact .refused login
  | answered =>
    rw [finished, meets_answer here (.inr rfl)]
    cases account with
    | waiting waits => rcases waits with h | h <;> cases h
    | sending admitted own =>
      rw [List.append_assoc]
      exact .done admitted own
  | dropped =>
    have met : (meets id s (.drop id) : List (Leg α)) = [.dropped] := by simp [meets, here]
    rw [met]
    exact .dropped account

/-- A step keeps a call on its account, unless it is started once more. -/
theorem OnAccount.step (h : call.OnAccount scheme id s trail)
    (wants : call.goal.wantsToken = true) (same : s.scheme = scheme) {event : Event}
    (once : ∀ goal, event ≠ .start id goal) :
    call.OnAccount scheme id (s.step event).1 (trail ++ call.legs id s event) := by
  obtain ⟨stage, here, account⟩ := h
  have move := Session.step_move s event
  by_cases concerned : event.task? = some id
  · cases stage with
    | none =>
      have still := move.absent concerned here once
      have unmet : (meets id s event : List (Leg α)) = [] := by
        cases event with
        | answer other answer => cases concerned; simp [meets, Session.awaits, here]
        | drop other => cases concerned; simp [meets, here]
        | _ => rfl
      exact ⟨none, by rw [still]; exact here, by simpa [legs, still, unmet] using account⟩
    | some stage =>
      obtain ⟨next, advance, there⟩ := move.advance concerned here wants once
      exact ⟨next, there, account.step same here concerned advance⟩
  · exact ⟨stage, (move.others concerned).trans here, by simpa [legs_of_others concerned]⟩

theorem trail_append (s : Session) (before after : List Event) :
    call.trail id s (before ++ after) =
      call.trail id s before ++ call.trail id (s.run before).1 after := by
  induction before generalizing s with
  | nil => rfl
  | cons event rest ih => simp [trail, Session.run, ih]

/-- A run keeps a call on its account. -/
theorem OnAccount.run (h : call.OnAccount scheme id s trail)
    (wants : call.goal.wantsToken = true) (same : s.scheme = scheme) {events : List Event}
    (once : ∀ goal, .start id goal ∉ events) :
    call.OnAccount scheme id (s.run events).1 (trail ++ call.trail id s events) := by
  induction events generalizing s trail with
  | nil => simpa [Session.run, Call.trail] using h
  | cons event rest ih =>
    have next : call.OnAccount scheme id (s.step event).1 (trail ++ call.legs id s event) :=
      h.step wants same fun goal first => once goal (first ▸ List.mem_cons_self)
    have later := ih next ((Session.step_move s event).settings_eq.1.trans same) fun goal mem =>
      once goal (List.mem_cons_of_mem _ mem)
    simpa [Session.run, Call.trail] using later

/-! ## What a call has found -/

/-- A call that hands over a login finds no token cached at that moment, and one that hands over its
own request has come by the token that the request carries. -/
theorem OnAccount.sent_moment (h : call.OnAccount scheme id s trail)
    (wants : call.goal.wantsToken = true) (same : s.scheme = scheme) {event : Event}
    (once : ∀ goal, event ≠ .start id goal) {request : HttpRequest}
    (sent : Output.sent id request ∈ (s.step event).2) :
    IsLogin scheme request ∧ s.cachedToken = none ∨ call.IsOwn scheme request ∧
      ∃ token, request.csrfToken = some token ∧ s.Obtains id event token := by
  obtain ⟨stage, here, -⟩ := h
  have move := Session.step_move s event
  have concerned : event.task? = some id := move.shows sent
  cases stage with
  | none =>
    rw [move.absent concerned here once] at sent
    cases sent
  | some stage =>
    obtain ⟨next, advance, -⟩ := move.advance concerned here wants once
    generalize (s.step event).2 = shown at advance sent
    cases advance with
    | logsIn entry made =>
      cases List.mem_singleton.mp sent
      exact .inl ⟨⟨s.context, same ▸ made⟩, entry.uncached wants⟩
    | @sends _ _ _ token _ grant made =>
      cases List.mem_singleton.mp sent
      exact .inr ⟨⟨s, token, same, made⟩, token, Session.ownRequest_token made wants,
        grant.obtained⟩
    | idle _ => cases sent
    | queued _ _ _ => cases sent
    | dropped => cases sent
    | nowhere _ _ => cases List.mem_singleton.mp sent
    | unsent _ _ => cases List.mem_singleton.mp sent
    | has _ _ => cases List.mem_singleton.mp sent
    | refused _ => cases List.mem_singleton.mp sent
    | answered => cases List.mem_singleton.mp sent

theorem mem_requests {request : HttpRequest} :
    request ∈ requests trail ↔ .sent request ∈ trail := by
  simp only [requests, List.mem_filterMap]
  constructor
  · rintro ⟨leg, mem, shows⟩
    cases leg with
    | sent handed => cases shows; exact mem
    | _ => cases shows
  · exact fun mem => ⟨_, mem, rfl⟩

/-- A call that has begun without a login does not log in later. -/
theorem Account.no_login {first : Leg α} (account : Account call scheme stage (first :: after))
    (wants : call.goal.wantsToken = true)
    (begun : ∀ request, first = .sent request → call.IsOwn scheme request) :
    ∀ request ∈ requests (first :: after), ¬ IsLogin scheme request := by
  intro request mem login
  obtain ⟨before, rest, split⟩ := List.append_of_mem (mem_requests.mp mem)
  obtain ⟨-, own⟩ := account.first split
  cases before with
  | nil =>
    cases split
    exact (begun request rfl).not_isLogin wants login
  | cons _ _ => exact (own (List.cons_ne_nil _ _)).not_isLogin wants login

/-- A call that runs for the first time while nothing else is under way logs in exactly if it finds
no token cached. -/
theorem OnAccount.login_iff (h : call.OnAccount scheme id s [])
    (wants : call.goal.wantsToken = true) (same : s.scheme = scheme) {events : List Event}
    (once : ∀ goal, .start id goal ∉ events) (fresh : s.task? id = some ⟨call.goal, .fresh⟩)
    (solo : s.Solo) (guarded : s.refresh = .singleFlight → s.Guarded) {login : HttpRequest}
    (made : s.context.loginRequest s.scheme = .ok login) :
    (∃ request ∈ requests (call.trail id s (.poll id :: events)), IsLogin scheme request) ↔
      s.cachedToken = none := by
  have polled : ∀ goal, .start id goal ∉ Event.poll id :: events := by simpa using once
  obtain ⟨stage, -, account⟩ := h.run wants same polled
  rw [List.nil_append] at account
  cases cached : s.cachedToken with
  | none =>
    have logs_in : call.legs id s (.poll id) = [.sent login] :=
      legs_of_sent (solo.logs_in guarded fresh wants cached made)
    refine iff_of_true ⟨login, ?_, s.context, same ▸ made⟩ rfl
    simp only [trail, logs_in]
    exact List.mem_cons_self
  | some token =>
    have goes_on := Session.step_poll_cached fresh wants cached
    refine iff_of_false ?_ (Option.some_ne_none token)
    rintro ⟨request, mem, login⟩
    obtain ⟨own, made, sent⟩ | ⟨outcome, ended⟩ := Session.withToken_cases s id call.goal token
    · have legs : call.legs id s (.poll id) = [.sent own] :=
        legs_of_sent (congrArg Prod.snd (goes_on.trans sent))
      simp only [trail, legs] at account mem
      refine account.no_login wants ?_ request mem login
      rintro _ ⟨⟩
      exact ⟨s, token, same, made⟩
    · have legs : call.legs id s (.poll id) = [.gave (call.finish outcome)] :=
        legs_of_finished (congrArg Prod.snd (goes_on.trans ended))
      simp only [trail, legs] at account mem
      exact account.no_login wants (fun _ same => by cases same) request mem login

/-- As long as a call is not run, nothing happens to it. -/
theorem OnAccount.unpolled (h : call.OnAccount scheme id s [])
    (wants : call.goal.wantsToken = true) (same : s.scheme = scheme) {events : List Event}
    (once : ∀ goal, .start id goal ∉ events)
    (still : (s.run events).1.task? id = some ⟨call.goal, .fresh⟩) :
    call.trail id s events = [] ∧ call.OnAccount scheme id (s.run events).1 [] := by
  obtain ⟨stage, here, account⟩ := h.run wants same once
  rw [List.nil_append] at account
  cases stage with
  | none => cases here.symm.trans still
  | some stage =>
    cases here.symm.trans still
    have none_yet := account.trail_nil (.inl rfl)
    exact ⟨none_yet, some .fresh, here, none_yet ▸ account⟩

/-- How often a call logs in, whatever happens besides, with or without a gate. It hands over a
login at most, and then a request of its own at most. Each is the first thing that it does, or
follows on a login that has passed, so nothing follows on an error. It logs in only while no token
is cached, and its own request carries one that was cached, or that its login has given. And where
operations do not overlap, a call logs in exactly if no token is cached when it runs first, which is
so until a login has passed, and later whenever there is no cookie for the host. -/
theorem run_accounted {α : Type} (call : Call α) (scheme : Scheme) (refresh : Refresh)
    (host : String) (credentials : Credentials) (holds : Url → Bool)
    (earlier events : List Event) (id : TaskId) (wants : call.goal.wantsToken = true)
    (once : ∀ goal, .start id goal ∉ events) :
    let start := Session.opened scheme refresh host credentials holds
    let started := (start.run (earlier ++ [.start id call.goal])).1
    let trail := call.trail id started events
    (∃ logins own, requests trail = logins ++ own ∧ logins.length ≤ 1 ∧ own.length ≤ 1 ∧
      (∀ request ∈ logins, IsLogin scheme request) ∧
      ∀ request ∈ own, call.IsOwn scheme request ∧ ¬ IsLogin scheme request) ∧
    (∀ before request after, trail = before ++ .sent request :: after → before = [] ∨
      ∃ login answer, before = [.sent login, .answered answer] ∧ IsLogin scheme login ∧
        LoginPasses answer ∧ call.IsOwn scheme request) ∧
    (∀ before event after request, events = before ++ event :: after →
      let now := (started.run before).1
      Output.sent id request ∈ (now.step event).2 →
        IsLogin scheme request ∧ now.cachedToken = none ∨ call.IsOwn scheme request ∧
          ∃ token, request.csrfToken = some token ∧ now.Obtains id event token) ∧
    ∀ before after root, events = before ++ .poll id :: after →
      .poll id ∉ before → .drop id ∉ before →
      Session.Throughout Session.Apart start (earlier ++ .start id call.goal :: events) →
      let begun := (started.run before).1
      endpoint scheme begun.context.host "/" = .ok root →
        ((∃ request ∈ requests trail, IsLogin scheme request) ↔ begun.cachedToken = none) ∧
        (begun.cachedToken = none ↔ begun.context.login = none ∨ begun.holds root = false) := by
  intro start started trail
  have same : started.scheme = scheme := (Session.run_settings start _).1
  have fresh : started.task? id = some ⟨call.goal, .fresh⟩ := by
    simp only [started, Session.run_append, Session.run, Session.step]
    split <;> exact (Session.task?_setTask _ id id _).trans (if_pos rfl)
  have begins : call.OnAccount scheme id started [] :=
    ⟨some .fresh, fresh, .waiting (.inl rfl)⟩
  obtain ⟨stage, -, account⟩ := begins.run wants same once
  rw [List.nil_append] at account
  have absent {before after : List Event} {event : Event}
      (split : events = before ++ event :: after) (goal : Goal) :
      .start id goal ∉ before ∧ event ≠ .start id goal ∧ .start id goal ∉ after := by
    have := once goal
    simp only [split, List.mem_append, List.mem_cons, not_or] at this
    exact ⟨this.1, Ne.symm this.2.1, this.2.2⟩
  refine ⟨?_, ?_, ?_, ?_⟩
  · obtain ⟨logins, own, split, few, single, all_logins, all_own⟩ := account.requests_split
    exact ⟨logins, own, split, few, single, all_logins,
      fun request mem => ⟨all_own request mem, (all_own request mem).not_isLogin wants⟩⟩
  · intro before request after split
    obtain ⟨admitted, own⟩ := account.first split
    cases admitted with
    | cached => exact .inl rfl
    | loggedIn login passes => exact .inr ⟨_, _, rfl, login, passes, own (List.cons_ne_nil _ _)⟩
  · intro before event after request split now sent
    have before_it := begins.run wants same fun goal => (absent split goal).1
    exact before_it.sent_moment wants ((Session.run_settings started before).1.trans same)
      (fun goal => (absent split goal).2.1) sent
  · intro before after root split unpolled kept apart begun host
    have unstarted goal := (absent split goal).1
    have still := Session.run_unpolled fresh unpolled kept unstarted
    obtain ⟨none_yet, waits⟩ := begins.unpolled wants same unstarted still
    have reached : begun = (start.run (earlier ++ .start id call.goal :: before)).1 := by
      simp only [begun, started, Session.run_append]
      rfl
    have whole : trail = call.trail id begun (.poll id :: after) := by
      simp only [trail, split, trail_append, none_yet, List.nil_append, begun]
    have begun_scheme : begun.scheme = scheme := (Session.run_settings started before).1.trans same
    have host : endpoint begun.scheme begun.context.host "/" = .ok root := begun_scheme ▸ host
    have apart_before : Session.Throughout Session.Apart start
        (earlier ++ .start id call.goal :: before) :=
      apart.front ⟨.poll id :: after, by simp [split]⟩
    have alone := Session.solo_of_run apart_before
    rw [← reached] at alone
    obtain ⟨solo, guarded⟩ := alone
    obtain ⟨login, made⟩ := Session.exists_loginRequest host
    refine ⟨?_, Session.cachedToken_eq_none_iff host fun login stored => ?_⟩
    · rw [whole]
      have once_after goal := (absent split goal).2.2
      exact waits.login_iff wants begun_scheme once_after still solo guarded made
    · rw [reached, Session.run_login] at stored
      exact (Session.logins_token (List.mem_of_getLast? (stored.symm ▸ Option.or_none.symm))).1

/-- A cookie is gone, and the next call logs in once more. -/
theorem run_accounted_cookie_gone :
    let call := Call.conf (.conf .getConf "system")
    let start := Session.opened .https .singleFlight "h" ⟨"u", "p"⟩ fun _ => false
    let root : Url := ⟨"https", "", "", some (.domain "h"), none, .segments [""], none, none⟩
    let page (body : String) : Except TransportError HttpResponse := .ok ⟨200, root, utf8 body⟩
    let earlier : List Event :=
      [.start 0 .token, .poll 0, .cookies fun _ => true,
        .answer 0 (page "<script>var csfrToken = 't';</script>"), .cookies fun _ => false]
    let events : List Event :=
      [.poll 1, .answer 1 (page "<script>var csfrToken = 'n';</script>"), .answer 1 (page "")]
    let started := (start.run (earlier ++ [.start 1 call.goal])).1
    let trail := call.trail 1 started events
    call.goal.wantsToken = true ∧ (∀ goal, .start 1 goal ∉ events) ∧
      Session.Throughout Session.Apart start (earlier ++ .start 1 call.goal :: events) ∧
      started.cachedToken = none ∧ ∃ login own, requests trail = login :: own ∧ own.length ≤ 1 ∧
        IsLogin .https login ∧ ∀ request ∈ own, call.IsOwn .https request := by
  intro call start root page earlier events started trail
  have wants : call.goal.wantsToken = true := rfl
  have once : ∀ goal, .start 1 goal ∉ events := by simp [events]
  have apart : Session.Throughout Session.Apart start
      (earlier ++ .start 1 call.goal :: events) := by decide +kernel
  have uncached : started.cachedToken = none := by decide +kernel
  have host : endpoint .https started.context.host "/" = .ok root :=
    endpoint_ok_iff.mpr (by decide +kernel)
  have polled : events = [] ++ .poll 1 :: events.tail := rfl
  -- nothing further is to be computed of the run
  clear_value earlier events
  obtain ⟨⟨logins, own, split, few, single, all_logins, all_own⟩, -, -, sequential⟩ :=
    run_accounted call .https .singleFlight "h" ⟨"u", "p"⟩ (fun _ => false) earlier events 1 wants
      once
  obtain ⟨logs_in, -⟩ :=
    sequential [] events.tail root polled List.not_mem_nil List.not_mem_nil apart host
  obtain ⟨request, mem, login⟩ := logs_in.mpr uncached
  refine ⟨wants, once, apart, uncached, request, own, ?_, single, login,
    fun request mem => (all_own request mem).1⟩
  rw [split] at mem ⊢
  rcases List.mem_append.mp mem with mem | mem
  · obtain ⟨first, rfl⟩ := List.length_eq_one_iff.mp
      (Nat.le_antisymm few (List.length_pos_of_mem mem))
    rw [List.mem_singleton.mp mem]
    rfl
  · exact absurd login (all_own request mem).2

end Call
end WlanAdmin
