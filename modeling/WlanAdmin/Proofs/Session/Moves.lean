import WlanAdmin.Session.Step

/-!
# WlanAdmin.Proofs.Session.Moves

What one event can do to a session, said once, so that no invariant has to look into `step` again.

* `Grant` : how an operation comes by a token, and the session it goes on from.
* `Entry` : how an operation comes to log in.
* `Move`, `step_move` : every step is a move.
* `Move.others`, `Move.shows` : an event concerns one operation at most.
* `opened`, `run_invariant` : the session at its start, and what every run keeps.
-/

namespace WlanAdmin

/-- Whether an operation goes through the token gate. -/
def Goal.wantsToken : Goal → Bool
  | .token | .post .. | .get .. => true
  | .login | .send _ => false

namespace Session

/-- What the answer to a login gives. -/
def loginResult : Except TransportError HttpResponse → Except SessionError LoginResult
  | .ok response => readLogin response.body
  | .error error => .error (.transport error)

/-- How an operation comes by a token: the session it goes on from, and the token. -/
inductive Grant (s : Session) (id : TaskId) (goal : Goal) : Event → Session → String → Prop where
  /-- A cached one, at its first run. -/
  | cached {token : String} : s.task? id = some ⟨goal, .fresh⟩ → goal.wantsToken = true →
      s.cachedToken = some token → Grant s id goal (.poll id) s token
  /-- A cached one, once the gate has been handed to it. -/
  | handed {token : String} : s.task? id = some ⟨goal, .queued⟩ → s.gate.owner = some id →
      s.cachedToken = some token →
      Grant s id goal (.poll id) { s with gate := s.gate.leave id } token
  /-- That of its own login. -/
  | loggedIn {answer : Except TransportError HttpResponse} {result : LoginResult} :
      s.task? id = some ⟨goal, .loggingIn⟩ → goal ≠ .login → loginResult answer = .ok result →
      Grant s id goal (.answer id answer) (s.endLogin id (.ok result)) result.csrfToken

/-- How an operation comes to log in, and the session it does so from. -/
inductive Entry (s : Session) (id : TaskId) : Goal → Session → Prop where
  | login : s.task? id = some ⟨.login, .fresh⟩ → Entry s id .login s
  | stale {goal : Goal} : s.task? id = some ⟨goal, .fresh⟩ → goal.wantsToken = true →
      s.refresh = .concurrent → s.cachedToken = none → Entry s id goal s
  /-- It finds the gate free. -/
  | entered {goal : Goal} : s.task? id = some ⟨goal, .fresh⟩ → goal.wantsToken = true →
      s.refresh = .singleFlight → s.cachedToken = none → (s.gate.enter id).owner = some id →
      Entry s id goal { s with gate := s.gate.enter id }
  /-- It has been handed the gate. -/
  | handed {goal : Goal} : s.task? id = some ⟨goal, .queued⟩ → s.gate.owner = some id →
      s.cachedToken = none → Entry s id goal s

/-- The events that concern no operation, or one that waits for something else. -/
def Idle (s : Session) : Event → Prop
  | .poll id => ∀ task, s.task? id = some task →
      task.stage ≠ .fresh ∧ (task.stage = .queued → s.gate.owner ≠ some id)
  | .answer id _ => ∀ task, s.task? id = some task →
      task.stage ≠ .loggingIn ∧ task.stage ≠ .sending
  | .drop id => s.task? id = none
  | _ => False

/-- What an event can do to a session. -/
inductive Move (s : Session) : Event → Moved → Prop where
  | idle {event : Event} : s.Idle event → Move s event (s, [])
  | started {id : TaskId} {goal : Goal} : s.task? id = none →
      Move s (.start id goal) (s.setTask id { goal }, [])
  | replaced {id : TaskId} {goal : Goal} {task : Task} : s.task? id = some task →
      Move s (.start id goal) ((s.drop id task).setTask id { goal }, [])
  | dropped {id : TaskId} {task : Task} : s.task? id = some task →
      Move s (.drop id) (s.drop id task, [])
  | redirected {authority : String} :
      Move s (.redirected authority) ({ s with context := s.context.redirected authority }, [])
  | cookies {holds : Url → Bool} : Move s (.cookies holds) ({ s with holds }, [])
  | credentials {credentials : Credentials} :
      Move s (.setCredentials credentials)
        ({ s with context := { s.context with credentials } }, [])
  /-- It finds the gate taken. -/
  | queued {id : TaskId} {goal : Goal} : s.task? id = some ⟨goal, .fresh⟩ →
      goal.wantsToken = true → s.refresh = .singleFlight → s.cachedToken = none →
      (s.gate.enter id).owner ≠ some id →
      Move s (.poll id) ({ s with gate := s.gate.enter id }.setTask id ⟨goal, .queued⟩, [])
  | logsIn {id : TaskId} {goal : Goal} {s' : Session} : Entry s id goal s' →
      Move s (.poll id) (s'.startLogin id goal)
  | granted {id : TaskId} {goal : Goal} {event : Event} {s' : Session} {token : String} :
      Grant s id goal event s' token → Move s event (s'.withToken id goal token)
  | passed {id : TaskId} {request : HttpRequest} : s.task? id = some ⟨.send request, .fresh⟩ →
      Move s (.poll id) (s.setTask id ⟨.send request, .sending⟩, [.sent id request])
  | loginDone {id : TaskId} {answer : Except TransportError HttpResponse} {result : LoginResult} :
      s.task? id = some ⟨.login, .loggingIn⟩ → loginResult answer = .ok result →
      Move s (.answer id answer) ((s.endLogin id (.ok result)).finish id (.ok (.login result)))
  | loginFailed {id : TaskId} {goal : Goal} {answer : Except TransportError HttpResponse}
      {error : SessionError} : s.task? id = some ⟨goal, .loggingIn⟩ →
      loginResult answer = .error error →
      Move s (.answer id answer) ((s.endLogin id (.error error)).finish id (.error error))
  | answered {id : TaskId} {goal : Goal} {answer : Except TransportError HttpResponse} :
      s.task? id = some ⟨goal, .sending⟩ →
      Move s (.answer id answer) (s.finish id (outcomeOf goal answer))

theorem Grant.underWay {s s' : Session} {id : TaskId} {goal : Goal} {event : Event} {token : String}
    (grant : Grant s id goal event s' token) : ∃ stage, s.task? id = some ⟨goal, stage⟩ := by
  cases grant <;> exact ⟨_, by assumption⟩

theorem Entry.underWay {s s' : Session} {id : TaskId} {goal : Goal} (entry : Entry s id goal s') :
    ∃ stage, s.task? id = some ⟨goal, stage⟩ := by
  cases entry <;> exact ⟨_, by assumption⟩

/-! ## Every step is a move -/

theorem begin_move {s : Session} {id : TaskId} {goal : Goal}
    (h : s.task? id = some ⟨goal, .fresh⟩) : Move s (.poll id) (s.begin id goal) := by
  cases goal with
  | login => exact .logsIn (.login h)
  | send request => exact .passed h
  | token | post path body | get path limit =>
    -- the three goals that want a token take the same way
    simp only [begin]
    cases hc : s.cachedToken with
    | some token => exact .granted (.cached h rfl hc)
    | none =>
      cases hr : s.refresh with
      | concurrent => exact .logsIn (.stale h rfl hr hc)
      | singleFlight =>
        by_cases ho : (s.gate.enter id).owner = some id
        · have he : Session.cachedToken { s with gate := s.gate.enter id } = none := hc
          simp only [queue, ho, if_true, useCached, he]
          exact .logsIn (.entered h rfl hr hc ho)
        · simp only [queue, ho, if_false]
          exact .queued h rfl hr hc ho

theorem poll_move {s : Session} {id : TaskId} {task : Task} (h : s.task? id = some task) :
    Move s (.poll id) (s.poll id task) := by
  obtain ⟨goal, stage⟩ := task
  cases stage with
  | fresh => exact begin_move h
  | queued =>
    simp only [poll]
    by_cases ho : s.gate.owner = some id
    · simp only [ho, if_true, useCached]
      cases hc : s.cachedToken with
      | some token => exact .granted (.handed h ho hc)
      | none => exact .logsIn (.handed h ho hc)
    · simp only [ho, if_false]
      refine .idle fun task ht => ?_
      rw [h] at ht
      cases ht
      exact ⟨nofun, fun _ => ho⟩
  | loggingIn => exact .idle fun task ht => by rw [h] at ht; cases ht; exact ⟨nofun, nofun⟩
  | sending => exact .idle fun task ht => by rw [h] at ht; cases ht; exact ⟨nofun, nofun⟩

theorem answerLogin_eq (s : Session) (id : TaskId) (goal : Goal)
    (answer : Except TransportError HttpResponse) :
    s.answerLogin id goal answer =
      match loginResult answer, goal with
      | .error error, _ => (s.endLogin id (.error error)).finish id (.error error)
      | .ok result, .login => (s.endLogin id (.ok result)).finish id (.ok (.login result))
      | .ok result, goal => (s.endLogin id (.ok result)).withToken id goal result.csrfToken := by
  change (match loginResult answer, goal with
    | .error error, _ => (s.endLogin id (loginResult answer)).finish id (.error error)
    | .ok result, .login => (s.endLogin id (loginResult answer)).finish id (.ok (.login result))
    | .ok result, _ => (s.endLogin id (loginResult answer)).withToken id goal result.csrfToken) = _
  cases loginResult answer with
  | error error => rfl
  | ok result => cases goal <;> rfl

theorem answer_move {s : Session} {id : TaskId} {task : Task} (h : s.task? id = some task)
    (answer : Except TransportError HttpResponse) :
    Move s (.answer id answer) (s.answer id task answer) := by
  obtain ⟨goal, stage⟩ := task
  cases stage with
  | fresh => exact .idle fun task ht => by rw [h] at ht; cases ht; exact ⟨nofun, nofun⟩
  | queued => exact .idle fun task ht => by rw [h] at ht; cases ht; exact ⟨nofun, nofun⟩
  | sending => exact .answered h
  | loggingIn =>
    simp only [Session.answer, answerLogin_eq]
    cases hr : loginResult answer with
    | error error => exact .loginFailed h hr
    | ok result =>
      by_cases hg : goal = .login
      · subst hg
        exact .loginDone h hr
      · have := Move.granted (Grant.loggedIn h hg hr)
        cases goal <;> first | exact this | exact absurd rfl hg

/-- Every step is a move. -/
theorem step_move (s : Session) (event : Event) : Move s event (s.step event) := by
  cases event with
  | start id goal =>
    simp only [step]
    cases h : s.task? id with
    | none => exact .started h
    | some task => exact .replaced h
  | poll id =>
    simp only [step]
    cases h : s.task? id with
    | none => exact .idle fun task ht => by rw [h] at ht; cases ht
    | some task => exact poll_move h
  | answer id result =>
    simp only [step]
    cases h : s.task? id with
    | none => exact .idle fun task ht => by rw [h] at ht; cases ht
    | some task => exact answer_move h result
  | drop id =>
    simp only [step]
    cases h : s.task? id with
    | none => exact .idle h
    | some task => exact .dropped h
  | redirected authority => exact .redirected
  | cookies holds => exact .cookies
  | setCredentials credentials => exact .credentials

/-! ## The table of tasks -/

theorem lookup_filter_ne {α : Type} (entries : List (TaskId × α)) (id other : TaskId) :
    (entries.filter fun entry => entry.1 ≠ id).lookup other =
      if other = id then none else entries.lookup other := by
  induction entries with
  | nil => simp
  | cons entry rest ih =>
    obtain ⟨key, value⟩ := entry
    by_cases hk : key = id
    · subst hk
      by_cases ho : other = key
      · simpa [ho] using ih
      · simpa [ho, List.lookup_cons, beq_eq_false_iff_ne.mpr ho] using ih
    · simp only [ne_eq, hk, not_false_eq_true, decide_true, List.filter_cons_of_pos,
        List.lookup_cons]
      by_cases ho : other = key
      · subst ho
        simp [hk]
      · simpa [beq_eq_false_iff_ne.mpr ho] using ih

@[simp] theorem task?_eraseTask (s : Session) (id other : TaskId) :
    (s.eraseTask id).task? other = if other = id then none else s.task? other :=
  lookup_filter_ne s.tasks id other

@[simp] theorem task?_setTask (s : Session) (id other : TaskId) (task : Task) :
    (s.setTask id task).task? other = if other = id then some task else s.task? other := by
  by_cases h : other = id
  · subst h
    simp [setTask, task?]
  · have := task?_eraseTask s id other
    simp only [task?] at this
    simp [setTask, task?, List.lookup_cons, beq_eq_false_iff_ne.mpr h, this, h]

theorem task?_setTask_of_ne (s : Session) (id : TaskId) (task : Task) :
    ∀ other, other ≠ id → (s.setTask id task).task? other = s.task? other :=
  fun other hne => (task?_setTask s id other task).trans (if_neg hne)

theorem task?_eraseTask_of_ne (s : Session) (id : TaskId) :
    ∀ other, other ≠ id → (s.eraseTask id).task? other = s.task? other :=
  fun other hne => (task?_eraseTask s id other).trans (if_neg hne)

theorem task?_start (s : Session) (id : TaskId) (goal : Goal) (other : TaskId) :
    (s.step (.start id goal)).1.task? other =
      if other = id then some { goal } else s.task? other := by
  simp only [step, task?_setTask]
  split
  · rfl
  · rename_i ne
    split
    · exact task?_eraseTask_of_ne s id other ne
    · rfl

@[simp] theorem eraseTask_context (s : Session) (id : TaskId) :
    (s.eraseTask id).context = s.context := rfl

/-! ## How a move ends -/

/-- The request of its own that an operation sends with a token, if it has one. -/
def ownRequest (s : Session) (token : String) : Goal → Option (Except SessionError HttpRequest)
  | .post path body => some <|
      (s.url path).map fun url => (HttpRequest.post url body).withToken token
  | .get path limit => some <|
      (s.url path).map fun url => ((HttpRequest.get url).withToken token).withLimit limit
  | .send request => some (.ok request)
  | .login | .token => none

/-- What the own request of an operation is made of. -/
theorem ownRequest_cases {s : Session} {token : String} {goal : Goal} {request : HttpRequest}
    (h : s.ownRequest token goal = some (.ok request)) :
    (∃ path body url, goal = .post path body ∧ s.url path = .ok url ∧
      request = (HttpRequest.post url body).withToken token) ∨
    (∃ path limit url, goal = .get path limit ∧ s.url path = .ok url ∧
      request = ((HttpRequest.get url).withToken token).withLimit limit) ∨
    goal = .send request := by
  cases goal with
  | login => cases h
  | token => cases h
  | send plain => cases h; exact .inr (.inr rfl)
  | post path body =>
    simp only [ownRequest, Option.some.injEq] at h
    cases hu : s.url path with
    | error error => rw [hu] at h; cases h
    | ok url => rw [hu] at h; cases h; exact .inl ⟨path, body, url, rfl, hu, rfl⟩
  | get path limit =>
    simp only [ownRequest, Option.some.injEq] at h
    cases hu : s.url path with
    | error error => rw [hu] at h; cases h
    | ok url => rw [hu] at h; cases h; exact .inr (.inl ⟨path, limit, url, rfl, hu, rfl⟩)

/-- What the request of a login is made of. -/
theorem loginRequest_ok {context : Context} {scheme : Scheme} {request : HttpRequest}
    (h : context.loginRequest scheme = .ok request) :
    ∃ url, endpoint scheme context.host loginPath = .ok url ∧
      request = { HttpRequest.post url context.credentials.form with
        bodyLimit := loginBodyLimit, csrfToken := context.token? } := by
  unfold Context.loginRequest at h
  split at h
  · cases h
  · rename_i url hu
    cases h
    exact ⟨url, hu, rfl⟩

theorem Grant.ownRequest_eq {s s' : Session} {id : TaskId} {goal : Goal} {event : Event}
    {token : String} (grant : Grant s id goal event s' token) (other : String) :
    s'.ownRequest other goal = s.ownRequest other goal := by
  cases grant <;> cases goal <;> rfl

theorem withToken_eq (s : Session) (id : TaskId) (goal : Goal) (token : String) :
    s.withToken id goal token =
      match s.ownRequest token goal with
      | some (.ok request) => (s.setTask id ⟨goal, .sending⟩, [.sent id request])
      | some (.error error) => s.finish id (.error error)
      | none => s.finish id (.ok (.token token)) := by
  cases goal with
  | login => rfl
  | token => rfl
  | send request => rfl
  | post path body =>
    simp only [withToken, sendOwn, ownRequest]
    cases s.url path <;> rfl
  | get path limit =>
    simp only [withToken, sendOwn, ownRequest]
    cases s.url path <;> rfl

/-- With a token, an operation sends its own request or is over. -/
theorem withToken_cases (s : Session) (id : TaskId) (goal : Goal) (token : String) :
    (∃ request, s.ownRequest token goal = some (.ok request) ∧
      s.withToken id goal token = (s.setTask id ⟨goal, .sending⟩, [.sent id request])) ∨
    ∃ outcome, s.withToken id goal token = s.finish id outcome := by
  rw [withToken_eq]
  cases s.ownRequest token goal with
  | none => exact .inr ⟨_, rfl⟩
  | some made =>
    cases made with
    | error error => exact .inr ⟨_, rfl⟩
    | ok request => exact .inl ⟨request, rfl, rfl⟩

/-- A login is sent, or there is no URL to send it to and the operation is over. -/
theorem startLogin_cases (s : Session) (id : TaskId) (goal : Goal) :
    (∃ request, s.context.loginRequest s.scheme = .ok request ∧ s.startLogin id goal =
      ({ s.setTask id ⟨goal, .loggingIn⟩ with loginsInFlight := s.loginsInFlight + 1 },
        [.sent id request])) ∨
    ∃ error, s.startLogin id goal =
      { s with gate := s.gate.leave id }.finish id (.error (.transport error)) := by
  unfold startLogin
  cases s.context.loginRequest s.scheme with
  | ok request => exact .inl ⟨request, rfl, rfl⟩
  | error error => exact .inr ⟨error, rfl⟩

theorem withToken_context (s : Session) (id : TaskId) (goal : Goal) (token : String) :
    (s.withToken id goal token).1.context = s.context := by
  obtain ⟨request, -, h⟩ | ⟨outcome, h⟩ := withToken_cases s id goal token <;> rw [h] <;> rfl

theorem startLogin_context (s : Session) (id : TaskId) (goal : Goal) :
    (s.startLogin id goal).1.context = s.context := by
  obtain ⟨request, -, h⟩ | ⟨error, h⟩ := startLogin_cases s id goal <;> rw [h] <;> rfl

/-! ## Other operations -/

end Session

/-- The operation that an event concerns. -/
def Event.task? : Event → Option TaskId
  | .start id _ | .poll id | .answer id _ | .drop id => some id
  | .redirected _ | .cookies _ | .setCredentials _ => none

/-- The operation that shows something. -/
def Output.task : Output → TaskId
  | .sent id _ | .finished id _ => id

namespace Session

theorem Grant.concerns {s s' : Session} {id : TaskId} {goal : Goal} {event : Event} {token : String}
    (grant : Grant s id goal event s' token) : event.task? = some id := by
  cases grant <;> rfl

theorem withToken_others (s : Session) {id other : TaskId} (goal : Goal) (token : String)
    (h : other ≠ id) : (s.withToken id goal token).1.task? other = s.task? other := by
  obtain ⟨request, -, hs⟩ | ⟨outcome, hs⟩ := withToken_cases s id goal token <;> rw [hs]
  · exact task?_setTask_of_ne s id _ other h
  · exact task?_eraseTask_of_ne s id other h

theorem startLogin_others (s : Session) {id other : TaskId} (goal : Goal) (h : other ≠ id) :
    (s.startLogin id goal).1.task? other = s.task? other := by
  obtain ⟨request, -, hs⟩ | ⟨error, hs⟩ := startLogin_cases s id goal <;> rw [hs]
  · exact task?_setTask_of_ne s id _ other h
  · exact task?_eraseTask_of_ne _ id other h

/-- An event leaves every operation that it does not concern as it is. -/
theorem Move.others {s : Session} {event : Event} {moved : Moved} (move : Move s event moved)
    {id : TaskId} (h : event.task? ≠ some id) : moved.1.task? id = s.task? id := by
  have ne : ∀ other, event.task? = some other → id ≠ other := fun other ho he => h (he ▸ ho)
  cases move with
  | started _ => exact task?_setTask_of_ne s _ _ id (ne _ rfl)
  | replaced _ =>
    exact (task?_setTask_of_ne _ _ _ id (ne _ rfl)).trans (task?_eraseTask_of_ne s _ id (ne _ rfl))
  | dropped _ => exact task?_eraseTask_of_ne s _ id (ne _ rfl)
  | queued _ _ _ _ _ => exact task?_setTask_of_ne _ _ _ id (ne _ rfl)
  | @logsIn _ goal s' entry =>
    exact (startLogin_others s' goal (ne _ rfl)).trans (by cases entry <;> rfl)
  | @granted other goal _ s' token grant =>
    exact (withToken_others s' goal token (ne _ grant.concerns)).trans (by cases grant <;> rfl)
  | passed _ => exact task?_setTask_of_ne s _ _ id (ne _ rfl)
  | loginDone _ _ => exact task?_eraseTask_of_ne s _ id (ne _ rfl)
  | loginFailed _ _ => exact task?_eraseTask_of_ne s _ id (ne _ rfl)
  | answered _ => exact task?_eraseTask_of_ne s _ id (ne _ rfl)
  | _ => rfl

/-- An event shows nothing but what the operation does that it concerns. -/
theorem Move.shows {s : Session} {event : Event} {moved : Moved} (move : Move s event moved)
    {output : Output} (shown : output ∈ moved.2) : event.task? = some output.task := by
  cases move with
  | @logsIn other goal s' entry =>
    obtain ⟨request, -, hs⟩ | ⟨error, hs⟩ := startLogin_cases s' other goal <;> rw [hs] at shown <;>
      rw [List.mem_singleton.mp shown] <;> rfl
  | @granted other goal _ s' token grant =>
    obtain ⟨request, -, hs⟩ | ⟨outcome, hs⟩ := withToken_cases s' other goal token <;>
      rw [hs] at shown <;> rw [List.mem_singleton.mp shown, grant.concerns] <;> rfl
  | passed _ => rw [List.mem_singleton.mp shown]; rfl
  | loginDone _ _ => rw [List.mem_singleton.mp shown]; rfl
  | loginFailed _ _ => rw [List.mem_singleton.mp shown]; rfl
  | answered _ => rw [List.mem_singleton.mp shown]; rfl
  | _ => exact absurd shown List.not_mem_nil

/-! ## Runs -/

/-- A session at its start: nothing is under way, and nobody has logged in. -/
def opened (scheme : Scheme) (refresh : Refresh) (host : String) (credentials : Credentials)
    (holds : Url → Bool) : Session :=
  { scheme, refresh, context := { host, credentials }, holds }

theorem run_append (s : Session) (before after : List Event) :
    (s.run (before ++ after)).1 = ((s.run before).1.run after).1 := by
  induction before generalizing s with
  | nil => rfl
  | cons event rest ih => simpa [run] using ih (s.step event).1

theorem run_append_shown (s : Session) (before after : List Event) :
    (s.run (before ++ after)).2 = (s.run before).2 ++ ((s.run before).1.run after).2 := by
  induction before generalizing s with
  | nil => rfl
  | cons event rest ih => simp [run, ih]

/-- What every step keeps, every run keeps. -/
theorem run_invariant {P : Session → Prop} (kept : ∀ s event, P s → P (s.step event).1)
    {s : Session} (h : P s) (events : List Event) : P (s.run events).1 := by
  induction events generalizing s with
  | nil => exact h
  | cons event rest ih => exact ih (kept s event h)

/-- What a session is opened with for good stays as it is. -/
theorem Move.settings_eq {s : Session} {event : Event} {moved : Moved}
    (move : Move s event moved) : moved.1.scheme = s.scheme ∧ moved.1.refresh = s.refresh := by
  cases move with
  | logsIn entry =>
    obtain ⟨request, -, h⟩ | ⟨error, h⟩ := startLogin_cases _ _ _ <;> rw [h] <;>
      cases entry <;> exact ⟨rfl, rfl⟩
  | granted grant =>
    obtain ⟨request, -, h⟩ | ⟨outcome, h⟩ := withToken_cases _ _ _ _ <;> rw [h] <;>
      cases grant <;> exact ⟨rfl, rfl⟩
  | _ => exact ⟨rfl, rfl⟩

theorem run_settings (s : Session) (events : List Event) :
    (s.run events).1.scheme = s.scheme ∧ (s.run events).1.refresh = s.refresh := by
  refine run_invariant (P := fun s' => s'.scheme = s.scheme ∧ s'.refresh = s.refresh)
    (fun s' event h => ?_) ⟨rfl, rfl⟩ events
  have kept := (step_move s' event).settings_eq
  exact ⟨kept.1.trans h.1, kept.2.trans h.2⟩

end Session
end WlanAdmin
