import WlanAdmin.Proofs.Client.Answer
import WlanAdmin.Proofs.Session.History
import WlanAdmin.Proofs.Url.Endpoint

/-!
# WlanAdmin.Proofs.Client.Course

The course of a call, from its start to what it gives: the first thing that fails decides. Writing
an envelope cannot fail, so the login comes first, where one is needed; then comes the request of
the call itself, then the status of its answer, and only then the body.

* `Leg`, `Call.trail` : what happens to a call in a run.
* `Course` : the trails that a call can leave.
* `Course.result_unique` : what has happened to a call fixes its result.
* `OnCourse.step` : a step keeps a call on its course.
* `run_course` : every run leaves every call on its course.
-/

namespace WlanAdmin

/-! ## What happens to a call -/

/-- What happens to a call. -/
inductive Leg (α : Type) where
  | sent (request : HttpRequest)
  /-- The answer to the request that it has sent. -/
  | answered (answer : Except TransportError HttpResponse)
  | gave (result : Except ClientError α)
  | dropped
  deriving DecidableEq

/-- Whether an operation has sent a request and waits for its answer. -/
def Session.awaits (s : Session) (id : TaskId) : Bool :=
  (s.task? id).any fun task => task.stage = .loggingIn || task.stage = .sending

namespace Call

variable {α : Type}

/-- What is done to a call with an event. -/
def meets (id : TaskId) (s : Session) : Event → List (Leg α)
  | .answer other answer => if other = id ∧ s.awaits id then [.answered answer] else []
  | .drop other => if other = id ∧ (s.task? id).isSome then [.dropped] else []
  | _ => []

/-- What a call does. -/
def leg? (call : Call α) (id : TaskId) : Output → Option (Leg α)
  | .sent other request => if other = id then some (.sent request) else none
  | .finished other outcome => if other = id then some (.gave (call.finish outcome)) else none

/-- What happens to a call with an event. -/
def legs (call : Call α) (id : TaskId) (s : Session) (event : Event) : List (Leg α) :=
  meets id s event ++ (s.step event).2.filterMap (call.leg? id)

/-- What happens to a call in a run. -/
def trail (call : Call α) (id : TaskId) (s : Session) : List Event → List (Leg α)
  | [] => []
  | event :: rest => call.legs id s event ++ call.trail id (s.step event).1 rest

/-- The request of a login. -/
def IsLogin (scheme : Scheme) (request : HttpRequest) : Prop :=
  ∃ context : Context, context.loginRequest scheme = .ok request

/-- The own request of a call, made with a token. -/
def IsOwn (call : Call α) (scheme : Scheme) (request : HttpRequest) : Prop :=
  ∃ (now : Session) (token : String), now.scheme = scheme ∧
    now.ownRequest token call.goal = some (.ok request)

/-- What happens to a call before it sends its own request: nothing where a token is cached, or a
login that passes. -/
inductive Admitted (scheme : Scheme) : List (Leg α) → Prop where
  | cached : Admitted scheme []
  | loggedIn {request : HttpRequest} {answer : Except TransportError HttpResponse} :
      IsLogin scheme request → LoginPasses answer →
      Admitted scheme [.sent request, .answered answer]

/-- The course of a call: how far it is, if it is still under way, and what has happened to it. -/
inductive Course (call : Call α) (path : String) (scheme : Scheme) :
    Option Stage → List (Leg α) → Prop where
  | waiting {stage : Stage} : stage = .fresh ∨ stage = .queued →
      Course call path scheme (some stage) []
  | loggingIn {request : HttpRequest} : IsLogin scheme request →
      Course call path scheme (some .loggingIn) [.sent request]
  /-- The login fails, and nothing more is sent. -/
  | refused {request : HttpRequest} {answer : Except TransportError HttpResponse}
      {failure : ClientError} : IsLogin scheme request → LoginFails answer failure →
      Course call path scheme none [.sent request, .answered answer, .gave (.error failure)]
  | sending {before : List (Leg α)} {request : HttpRequest} : Admitted scheme before →
      call.IsOwn scheme request →
      Course call path scheme (some .sending) (before ++ [.sent request])
  | done {before : List (Leg α)} {request : HttpRequest}
      {answer : Except TransportError HttpResponse} {result : Except ClientError α} :
      Admitted scheme before → call.IsOwn scheme request → Gives call path answer result →
      Course call path scheme none (before ++ [.sent request, .answered answer, .gave result])
  | dropped {stage : Stage} {trail : List (Leg α)} : Course call path scheme (some stage) trail →
      Course call path scheme none (trail ++ [.dropped])

variable {call : Call α} {path : String} {scheme : Scheme}

/-! ## The trail fixes the result -/

/-- No request of a call could be one of a login: it fetches a path, or lets a larger answer be
read. -/
theorem IsOwn.not_isLogin (wants : call.goal.wantsToken = true) {request : HttpRequest}
    (own : call.IsOwn scheme request) : ¬ IsLogin scheme request := by
  obtain ⟨now, token, -, made⟩ := own
  rintro ⟨context, login⟩
  obtain ⟨url, -, same⟩ := Session.loginRequest_ok login
  obtain ⟨path, body, url, -, -, rfl⟩ | ⟨path, limit, url, -, -, rfl⟩ | sent :=
    Session.ownRequest_cases made
  · exact absurd (congrArg HttpRequest.bodyLimit same)
      (by decide : defaultBodyLimit ≠ loginBodyLimit)
  · cases congrArg HttpRequest.method same
  · rw [sent] at wants
    cases wants

/-- A result follows on an answer: one that fails a login, or one to the own request of the call. -/
theorem Course.gave_cases {before : List (Leg α)} {result : Except ClientError α}
    (course : Course call path scheme none (before ++ [.gave result])) :
    (∃ request answer failure, before = [.sent request, .answered answer] ∧
      IsLogin scheme request ∧ LoginFails answer failure ∧ result = .error failure) ∨
    ∃ front request answer, before = front ++ [.sent request, .answered answer] ∧
      call.IsOwn scheme request ∧ Gives call path answer result := by
  generalize whole : before ++ [.gave result] = trail at course
  cases course with
  | @refused request answer failure isLogin fails =>
    change before ++ [.gave result] =
      [.sent request, .answered answer] ++ [.gave (.error failure)] at whole
    obtain ⟨same, last⟩ := List.append_inj' whole rfl
    cases last
    exact .inl ⟨request, answer, failure, same, isLogin, fails, rfl⟩
  | @done front request answer given _ own gives =>
    rw [show front ++ [.sent request, .answered answer, .gave given] =
      (front ++ [.sent request, .answered answer]) ++ [.gave given] by simp] at whole
    obtain ⟨same, last⟩ := List.append_inj' whole rfl
    cases last
    exact .inr ⟨front, request, answer, same, own, gives⟩
  | dropped _ => cases (List.append_inj' whole rfl).2

/-- What has happened to a call before fixes its result. -/
theorem Course.result_unique (goes : call.GoesTo path) {before : List (Leg α)}
    {one two : Except ClientError α}
    (course : Course call path scheme none (before ++ [.gave one]))
    (other : Course call path scheme none (before ++ [.gave two])) : one = two := by
  rcases course.gave_cases with ⟨request, answer, failure, rfl, isLogin, fails, rfl⟩ |
    ⟨front, request, answer, rfl, own, gives⟩
  · rcases other.gave_cases with ⟨request', answer', failure', same, -, fails', rfl⟩ |
      ⟨front', request', answer', same, own', -⟩
    · cases same
      obtain ⟨error, failed, rfl⟩ := loginFails_iff.mp fails
      obtain ⟨error', failed', rfl⟩ := loginFails_iff.mp fails'
      cases failed.symm.trans failed'
      rfl
    · have same : [] ++ [.sent request, .answered answer] =
          front' ++ [.sent request', .answered answer'] := same
      cases (List.append_inj' same rfl).2
      exact absurd isLogin (own'.not_isLogin goes.wantsToken)
  · rcases other.gave_cases with ⟨request', answer', failure', same, isLogin', -, rfl⟩ |
      ⟨front', request', answer', same, -, gives'⟩
    · have same : front ++ [.sent request, .answered answer] =
          [] ++ [.sent request', .answered answer'] := same
      cases (List.append_inj' same rfl).2
      exact absurd isLogin' (own.not_isLogin goes.wantsToken)
    · cases (List.append_inj' same rfl).2
      exact (goes.gives_iff.mp gives).symm.trans (goes.gives_iff.mp gives')

end Call

/-! ## One step of a call -/

namespace Session

/-- Every request that an operation may have to send can be made. -/
structure CanSend (s : Session) (goal : Goal) : Prop where
  login : ∃ request, s.context.loginRequest s.scheme = .ok request
  own : ∀ token, ∃ request, s.ownRequest token goal = some (.ok request)

/-- A run of an operation that waits leaves it waiting, or sends one of its requests. -/
theorem poll_waiting {s : Session} {id : TaskId} {goal : Goal} {stage : Stage}
    (here : s.task? id = some ⟨goal, stage⟩) (waits : stage = .fresh ∨ stage = .queued)
    (wants : goal.wantsToken = true) (can : s.CanSend goal) :
    let moved := s.step (.poll id)
    (∃ later, (later = .fresh ∨ later = .queued) ∧ moved.1.task? id = some ⟨goal, later⟩ ∧
      moved.2 = []) ∨
    (∃ request, s.context.loginRequest s.scheme = .ok request ∧
      moved.1.task? id = some ⟨goal, .loggingIn⟩ ∧ moved.2 = [.sent id request]) ∨
    ∃ token request, s.ownRequest token goal = some (.ok request) ∧
      moved.1.task? id = some ⟨goal, .sending⟩ ∧ moved.2 = [.sent id request] := by
  intro moved
  have move : Move s (.poll id) moved := step_move s (.poll id)
  clear_value moved
  cases move with
  | idle _ => exact .inl ⟨stage, waits, here, rfl⟩
  | @queued _ other h _ _ _ _ =>
    cases here.symm.trans h
    exact .inl ⟨.queued, .inr rfl, (task?_setTask _ id id _).trans (if_pos rfl), rfl⟩
  | @logsIn _ other s' entry =>
    obtain ⟨_, there⟩ := entry.underWay
    cases here.symm.trans there
    obtain ⟨request, made⟩ := can.login
    have unchanged : s'.context.loginRequest s'.scheme = s.context.loginRequest s.scheme := by
      cases entry <;> rfl
    have sends : s'.startLogin id goal = ({ s'.setTask id ⟨goal, .loggingIn⟩ with
        loginsInFlight := s'.loginsInFlight + 1 }, [.sent id request]) := by
      simp only [startLogin, unchanged, made]
    rw [sends]
    exact .inr (.inl ⟨request, made, (task?_setTask s' id id _).trans (if_pos rfl), rfl⟩)
  | @granted asker other _ s' token grant =>
    cases grant.concerns
    obtain ⟨_, there⟩ := grant.underWay
    cases here.symm.trans there
    obtain ⟨request, made⟩ := can.own token
    have sends : s'.withToken id goal token =
        (s'.setTask id ⟨goal, .sending⟩, [.sent id request]) := by
      simp only [withToken_eq, grant.ownRequest_eq, made]
    rw [sends]
    exact .inr (.inr ⟨token, request, made, (task?_setTask s' id id _).trans (if_pos rfl), rfl⟩)
  | passed h =>
    cases here.symm.trans h
    cases wants

/-- The answer to a login ends an operation, or lets it send its own request. -/
theorem answer_loggingIn {s : Session} {id : TaskId} {goal : Goal}
    (here : s.task? id = some ⟨goal, .loggingIn⟩) (wants : goal.wantsToken = true)
    (can : s.CanSend goal) (answer : Except TransportError HttpResponse) :
    let moved := s.step (.answer id answer)
    (∃ error, loginResult answer = .error error ∧ moved.1.task? id = none ∧
      moved.2 = [.finished id (.error error)]) ∨
    ∃ result request, loginResult answer = .ok result ∧
      s.ownRequest result.csrfToken goal = some (.ok request) ∧
      moved.1.task? id = some ⟨goal, .sending⟩ ∧ moved.2 = [.sent id request] := by
  intro moved
  have move : Move s (.answer id answer) moved := step_move s (.answer id answer)
  clear_value moved
  cases move with
  | idle h => exact absurd rfl (h _ here).1
  | @loginFailed _ _ _ error _ failed =>
    exact .inl ⟨error, failed, (task?_eraseTask _ id id).trans (if_pos rfl), rfl⟩
  | loginDone h _ =>
    cases here.symm.trans h
    cases wants
  | answered h => cases here.symm.trans h
  | granted grant =>
    have unchanged := grant.ownRequest_eq
    cases grant with
    | @loggedIn _ result h _ read =>
      cases here.symm.trans h
      obtain ⟨request, made⟩ := can.own result.csrfToken
      have sends : (s.endLogin id (.ok result)).withToken id goal result.csrfToken =
          ((s.endLogin id (.ok result)).setTask id ⟨goal, .sending⟩, [.sent id request]) := by
        simp only [withToken_eq, unchanged, made]
      rw [sends]
      exact .inr ⟨result, request, read, made, (task?_setTask _ id id _).trans (if_pos rfl), rfl⟩

/-- A host that forms a URL can be logged in at. -/
theorem exists_loginRequest {s : Session} {root : Url}
    (host : endpoint s.scheme s.context.host "/" = .ok root) :
    ∃ request, s.context.loginRequest s.scheme = .ok request := by
  have absolute : loginPath.toList = '/' :: "admin/login.jsp".toList := by rfl
  obtain ⟨login, there, -⟩ := endpoint_absolute host absolute
  simp [Context.loginRequest, there]

/-- A host that forms a URL lets a call send all its requests. -/
theorem canSend {α : Type} {call : Call α} {path : String} {rest : List Char}
    (goes : call.GoesTo path) (absolute : path.toList = '/' :: rest) {s : Session} {root : Url}
    (host : endpoint s.scheme s.context.host "/" = .ok root) : s.CanSend call.goal := by
  obtain ⟨url, hu, -⟩ := endpoint_absolute host absolute
  have there : s.url path = .ok url := by simp only [Session.url, hu]
  refine ⟨exists_loginRequest host, fun token => ?_⟩
  obtain ⟨body, h⟩ | ⟨limit, h⟩ := goes.goal <;> rw [h] <;>
    simp only [ownRequest, there] <;> exact ⟨_, rfl⟩

end Session

/-! ## The course of a call in a run -/

namespace Call

variable {α : Type} {call : Call α} {path : String} {scheme : Scheme} {id : TaskId} {s : Session}
  {trail : List (Leg α)}

/-- A call is on its course. -/
def OnCourse (call : Call α) (path : String) (scheme : Scheme) (id : TaskId) (s : Session)
    (trail : List (Leg α)) : Prop :=
  ∃ stage, s.task? id = stage.map (Task.mk call.goal) ∧ Course call path scheme stage trail

theorem legs_of_sent {event : Event} {request : HttpRequest}
    (h : (s.step event).2 = [.sent id request]) :
    call.legs id s event = meets id s event ++ [.sent request] := by
  simp [legs, h, leg?]

theorem legs_of_finished {event : Event} {outcome : Outcome}
    (h : (s.step event).2 = [.finished id outcome]) :
    call.legs id s event = meets id s event ++ [.gave (call.finish outcome)] := by
  simp [legs, h, leg?]

theorem legs_of_silent {event : Event} (h : (s.step event).2 = []) :
    call.legs id s event = meets id s event := by
  simp [legs, h]

/-- Where nothing happens to a call, it stays where it is. -/
theorem OnCourse.stays {event : Event} (h : call.OnCourse path scheme id s trail)
    (same : (s.step event).1.task? id = s.task? id) (still : call.legs id s event = []) :
    call.OnCourse path scheme id (s.step event).1 (trail ++ call.legs id s event) := by
  rw [still, List.append_nil]
  obtain ⟨stage, here, course⟩ := h
  exact ⟨stage, same.trans here, course⟩

/-- An event for which a call does not wait changes nothing. -/
theorem OnCourse.idle {event : Event} (h : call.OnCourse path scheme id s trail)
    (idle : s.step event = (s, [])) (unmet : (meets id s event : List (Leg α)) = []) :
    call.OnCourse path scheme id (s.step event).1 (trail ++ call.legs id s event) :=
  h.stays (by rw [idle]) ((legs_of_silent (congrArg Prod.snd idle)).trans unmet)

theorem leg?_eq_none {output : Output} (h : output.task ≠ id) : call.leg? id output = none := by
  cases output <;> exact if_neg h

/-- Nothing happens to a call with what other operations do. -/
theorem legs_of_others {event : Event} (other : event.task? ≠ some id) :
    call.legs id s event = [] := by
  have move := Session.step_move s event
  have silent : (s.step event).2.filterMap (call.leg? id) = [] :=
    List.filterMap_eq_nil_iff.mpr fun output shown =>
      leg?_eq_none fun same => other (same ▸ move.shows shown)
  have untouched : (meets id s event : List (Leg α)) = [] := by
    cases event with
    | answer asker answer => exact if_neg fun h => other (congrArg some h.1)
    | drop asker => exact if_neg fun h => other (congrArg some h.1)
    | _ => rfl
  rw [legs, silent, untouched]
  rfl

/-- What other operations do does not touch a call. -/
theorem OnCourse.others {event : Event} (h : call.OnCourse path scheme id s trail)
    (other : event.task? ≠ some id) :
    call.OnCourse path scheme id (s.step event).1 (trail ++ call.legs id s event) :=
  h.stays ((Session.step_move s event).others other) (legs_of_others other)

theorem OnCourse.poll (h : call.OnCourse path scheme id s trail) (goes : call.GoesTo path)
    (same : s.scheme = scheme) (can : s.CanSend call.goal) :
    call.OnCourse path scheme id (s.step (.poll id)).1
      (trail ++ call.legs id s (.poll id)) := by
  have ⟨stage, here, course⟩ := h
  cases course with
  | @waiting stage waits =>
    obtain ⟨later, waits', at_later, shown⟩ | ⟨request, made, sent, shown⟩ |
      ⟨token, request, made, sent, shown⟩ := Session.poll_waiting here waits goes.wantsToken can
    · exact ⟨some later, at_later, legs_of_silent shown ▸ .waiting waits'⟩
    · exact ⟨some .loggingIn, sent, legs_of_sent shown ▸ .loggingIn ⟨s.context, same ▸ made⟩⟩
    · exact ⟨some .sending, sent,
        legs_of_sent shown ▸ .sending .cached ⟨s, token, same, made⟩⟩
  | _ =>
    -- it waits for an answer, or is over
    exact h.idle (by simp only [Session.step, here, Option.map, Session.poll]) rfl

theorem meets_answer {goal : Goal} {stage : Stage} (here : s.task? id = some ⟨goal, stage⟩)
    (waits : stage = .loggingIn ∨ stage = .sending) (answer : Except TransportError HttpResponse) :
    (meets id s (.answer id answer) : List (Leg α)) = [.answered answer] := by
  rcases waits with rfl | rfl <;> simp [meets, Session.awaits, here]

theorem OnCourse.answer (h : call.OnCourse path scheme id s trail) (goes : call.GoesTo path)
    (same : s.scheme = scheme) (can : s.CanSend call.goal)
    (answer : Except TransportError HttpResponse) :
    call.OnCourse path scheme id (s.step (.answer id answer)).1
      (trail ++ call.legs id s (.answer id answer)) := by
  have ⟨stage, here, course⟩ := h
  cases course with
  | @waiting stage waits =>
    rcases waits with rfl | rfl <;>
      exact h.idle (by simp only [Session.step, here, Option.map, Session.answer])
        (by simp [meets, Session.awaits, here])
  | @loggingIn login isLogin =>
    obtain ⟨error, failed, ended, shown⟩ | ⟨result, request, passed, made, sent, shown⟩ :=
      Session.answer_loggingIn here goes.wantsToken can answer
    · refine ⟨none, ended, ?_⟩
      rw [legs_of_finished shown, meets_answer here (.inl rfl)]
      exact .refused isLogin (loginFails_iff.mpr ⟨error, failed, rfl⟩)
    · refine ⟨some .sending, sent, ?_⟩
      rw [legs_of_sent shown, meets_answer here (.inl rfl)]
      exact .sending (.loggedIn isLogin (loginPasses passed)) ⟨s, result.csrfToken, same, made⟩
  | @sending before request admitted own =>
    have ends : s.step (.answer id answer) =
        s.finish id (Session.outcomeOf call.goal answer) := by
      simp only [Session.step, here, Option.map, Session.answer]
    refine ⟨none, ?_, ?_⟩
    · rw [ends]
      exact (Session.task?_eraseTask s id id).trans (if_pos rfl)
    · rw [legs_of_finished (congrArg Prod.snd ends), meets_answer here (.inr rfl),
        List.append_assoc]
      exact .done admitted own (goes.gives_iff.mpr rfl)
  | _ =>
    -- it is over
    exact h.idle (by simp only [Session.step, here, Option.map])
      (by simp [meets, Session.awaits, here])

theorem OnCourse.drop (h : call.OnCourse path scheme id s trail) :
    call.OnCourse path scheme id (s.step (.drop id)).1 (trail ++ call.legs id s (.drop id)) := by
  have ⟨stage, here, course⟩ := h
  cases stage with
  | none =>
    exact h.idle (by simp only [Session.step, here, Option.map]) (by simp [meets, here])
  | some stage =>
    have ends : s.step (.drop id) = (s.drop id ⟨call.goal, stage⟩, []) := by
      simp only [Session.step, here, Option.map]
    have met : (meets id s (.drop id) : List (Leg α)) = [.dropped] := by simp [meets, here]
    refine ⟨none, ?_, ?_⟩
    · rw [ends]
      exact (Session.task?_eraseTask s id id).trans (if_pos rfl)
    · rw [legs_of_silent (congrArg Prod.snd ends), met]
      exact .dropped course

/-- A step keeps a call on its course, as long as its requests can be made and it is not started
once more. -/
theorem OnCourse.step (h : call.OnCourse path scheme id s trail) (goes : call.GoesTo path)
    (same : s.scheme = scheme) (can : s.CanSend call.goal) {event : Event}
    (once : ∀ goal, event ≠ .start id goal) :
    call.OnCourse path scheme id (s.step event).1 (trail ++ call.legs id s event) := by
  by_cases concerned : event.task? = some id
  · cases event with
    | start other goal =>
      cases concerned
      exact absurd rfl (once goal)
    | poll other =>
      cases concerned
      exact h.poll goes same can
    | answer other answer =>
      cases concerned
      exact h.answer goes same can answer
    | drop other =>
      cases concerned
      exact h.drop
    | _ => cases concerned
  · exact h.others concerned

/-- A run keeps a call on its course, as long as every host on the way forms a URL. -/
theorem OnCourse.run {rest : List Char} (h : call.OnCourse path scheme id s trail)
    (goes : call.GoesTo path) (absolute : path.toList = '/' :: rest) (same : s.scheme = scheme)
    {events : List Event}
    (hosts : ∀ host ∈ s.context.host :: events.filterMap Event.host?,
      ∃ root, endpoint scheme host "/" = .ok root)
    (once : ∀ goal, .start id goal ∉ events) :
    call.OnCourse path scheme id (s.run events).1 (trail ++ call.trail id s events) := by
  induction events generalizing s trail with
  | nil => simpa [Session.run, Call.trail] using h
  | cons event events ih =>
    obtain ⟨root, host⟩ := hosts _ List.mem_cons_self
    have can := Session.canSend goes absolute (same ▸ host)
    have next : call.OnCourse path scheme id (s.step event).1 (trail ++ call.legs id s event) :=
      h.step goes same can fun goal first => once goal (first ▸ List.mem_cons_self)
    have later := ih next ((Session.step_move s event).settings_eq.1.trans same) ?_ fun goal mem =>
      once goal (List.mem_cons_of_mem _ mem)
    · simpa [Session.run, Call.trail] using later
    · intro other mem
      refine hosts other ?_
      rw [Session.step_host] at mem
      cases moved : event.host? with
      | none => simpa [moved] using mem
      | some authority => simp only [moved, Option.getD_some] at mem; simp [moved, mem]

/-- Whatever happens to a session besides, a call leaves no other trail than that of its course, on
which the first failure decides: a login that fails, before anything else is sent; a request of its
own that gets no answer; a status other than 200, whatever the body; and the body last. So what the
call gives is fixed by what has happened to it before. -/
theorem run_course {α : Type} (call : Call α) {path : String} {rest : List Char} (s : Session)
    (id : TaskId) (events : List Event) (goes : call.GoesTo path)
    (absolute : path.toList = '/' :: rest)
    (hosts : ∀ host ∈ s.context.host :: events.filterMap Event.host?,
      ∃ root, endpoint s.scheme host "/" = .ok root)
    (once : ∀ goal, .start id goal ∉ events) :
    let started := (s.step (.start id call.goal)).1
    (∃ stage, (started.run events).1.task? id = stage.map (Task.mk call.goal) ∧
      Course call path s.scheme stage (call.trail id started events)) ∧
    ∀ before one two, Course call path s.scheme none (before ++ [.gave one]) →
      Course call path s.scheme none (before ++ [.gave two]) → one = two := by
  intro started
  have move := Session.step_move s (.start id call.goal)
  have here : started.task? id = some ⟨call.goal, .fresh⟩ := by
    simp only [started, Session.step]
    split <;> exact (Session.task?_setTask _ id id _).trans (if_pos rfl)
  have start : call.OnCourse path s.scheme id started [] := ⟨some .fresh, here, .waiting (.inl rfl)⟩
  have same_host : started.context.host = s.context.host := Session.step_host s _
  refine ⟨start.run goes absolute move.settings_eq.1 (same_host ▸ hosts) once, ?_⟩
  exact fun before one two => Course.result_unique goes

/-- A call that logs in first, is redirected on the way, and gets a status of 500 with a body that
could be read: it gives the status, and could not give anything else. -/
theorem run_course_status :
    let root (host : String) : Url :=
      ⟨"https", "", "", some (.domain host), none, .segments [""], none, none⟩
    let envelope : RequestEnvelope := .conf .getConf "system"
    let call := Call.conf envelope
    let s := Session.opened .https .singleFlight "h" ⟨"u", "p"⟩ fun _ => false
    let login : HttpResponse := ⟨200, root "g", utf8 "<script>var csfrToken = 't';</script>"⟩
    let answer : HttpResponse :=
      ⟨500, root "g", utf8 "<ajax-response><response><xmsg msg='no'/></response></ajax-response>"⟩
    let events : List Event :=
      [.poll 0, .redirected "g", .answer 0 (.ok login), .answer 0 (.ok answer)]
    let started := (s.step (.start 0 call.goal)).1
    let loginPage : Url := { root "h" with path := .segments ["admin", "login.jsp"] }
    let confPage : Url := { root "g" with path := .segments ["admin", "_conf.jsp"] }
    let before : List (Leg ConfResponse) :=
      [.sent ((HttpRequest.post loginPage s.context.credentials.form).withLimit loginBodyLimit),
        .answered (.ok login),
        .sent ((HttpRequest.post confPage envelope.encode).withToken "t"),
        .answered (.ok answer)]
    let failed : Except ClientError ConfResponse := .error (.transport (.status 500 confPath))
    call.GoesTo confPath ∧ confPath.toList = '/' :: "admin/_conf.jsp".toList ∧
      (∀ host ∈ s.context.host :: events.filterMap Event.host?,
        ∃ root, endpoint s.scheme host "/" = .ok root) ∧
      (∀ goal, .start 0 goal ∉ events) ∧
      (started.run events).1.task? 0 = none ∧
      call.trail 0 started events = before ++ [.gave failed] ∧
      Course call confPath .https none (before ++ [.gave failed]) ∧
      ∀ other, Course call confPath .https none (before ++ [.gave other]) → other = failed := by
  intro root envelope call s login answer events started loginPage confPage before failed
  have goes : call.GoesTo confPath := .conf
  have hosts : ∀ host ∈ s.context.host :: events.filterMap Event.host?,
      ∃ root, endpoint s.scheme host "/" = .ok root := by
    have known : s.context.host :: events.filterMap Event.host? = ["h", "g"] := rfl
    rw [known]
    rintro host (_ | ⟨_, _ | ⟨_, ⟨⟩⟩⟩)
    · exact ⟨root "h", endpoint_ok_iff.mpr (by decide +kernel)⟩
    · exact ⟨root "g", endpoint_ok_iff.mpr (by decide +kernel)⟩
  have once : ∀ goal, .start 0 goal ∉ events := by simp [events]
  have absolute : confPath.toList = '/' :: "admin/_conf.jsp".toList := by rfl
  have gone : (started.run events).1.task? 0 = none := by decide +kernel
  have trail : call.trail 0 started events = before ++ [.gave failed] := by decide +kernel
  obtain ⟨⟨stage, reached, course⟩, unique⟩ := run_course call s 0 events goes absolute hosts once
  obtain rfl : stage = none := Option.map_eq_none_iff.mp (reached.symm.trans gone)
  have course : Course call confPath .https none (before ++ [.gave failed]) := trail ▸ course
  exact ⟨goes, absolute, hosts, once, gone, trail, course,
    fun other course' => unique before other failed course' course⟩

end Call
end WlanAdmin
