import WlanAdmin.Proofs.Client.Answer
import WlanAdmin.Proofs.Client.Freshness
import WlanAdmin.Proofs.Http.BodyLimit

/-!
# WlanAdmin.Proofs.Client.AnswerLimit

Which answers are too large for a call. An envelope is sent with the limit that requests have where
nothing else is said, so the configured limit decides up to that one, and none beyond it.

* `Connection.Expects`  : an operation that has sent its own request waits for the answer to it.
* `Expects.serve`, `Reached.expects` : so it is after each step, and whenever a connection is reached.
* `Call.Carries`        : the calls that send an envelope.
* `Expects.gives`       : what they give, from the body of the answer.
* `body_limit_decides`  : which answers are too large.
* `larger_limit_in_vain` : a limit beyond the one of requests, and an answer within it.
-/

namespace WlanAdmin

/-! ## Requests that are on their way -/

namespace Session

/-- An operation whose own request is on its way after an event has sent it just now, or it was on
its way before and the operation has shown nothing. -/
theorem step_sending {s : Session} {event : Event} {id : TaskId} {goal : Goal}
    (sending : (s.step event).1.task? id = some ⟨goal, .sending⟩) :
    (∃ (now : Session) (token : String) (request : HttpRequest),
      now.ownRequest token goal = some (.ok request) ∧ (s.step event).2 = [.sent id request]) ∨
    s.task? id = some ⟨goal, .sending⟩ ∧ ∀ request, .sent id request ∉ (s.step event).2 := by
  have move := step_move s event
  by_cases concerned : event.task? = some id
  · generalize s.step event = moved at move sending
    have erased (t : Session) : (t.eraseTask id).task? id = none :=
      (task?_eraseTask t id id).trans (if_pos rfl)
    have noted (t : Session) (task : Task) : (t.setTask id task).task? id = some task :=
      (task?_setTask t id id task).trans (if_pos rfl)
    -- a grant and a request of the caller's own are all that leaves an operation there
    cases move with
    | idle _ => exact .inr ⟨sending, fun _ => List.not_mem_nil⟩
    | redirected => cases concerned
    | cookies => cases concerned
    | credentials => cases concerned
    | started _ => cases concerned; cases (noted _ _).symm.trans sending
    | replaced _ => cases concerned; cases (noted _ _).symm.trans sending
    | dropped _ => cases concerned; cases (erased _).symm.trans sending
    | queued _ _ _ _ _ => cases concerned; cases (noted _ _).symm.trans sending
    | @logsIn _ other s' entry =>
      cases concerned
      obtain ⟨request, -, moved⟩ | ⟨error, moved⟩ := startLogin_cases s' id other
      · rw [moved] at sending
        cases (noted s' _).symm.trans sending
      · rw [moved] at sending
        cases (erased _).symm.trans sending
    | @granted _ other _ s' token grant =>
      cases grant.concerns.symm.trans concerned
      obtain ⟨request, own, moved⟩ | ⟨outcome, moved⟩ := withToken_cases s' id other token
      · rw [moved] at sending ⊢
        cases (noted s' _).symm.trans sending
        exact .inl ⟨s', token, request, own, rfl⟩
      · rw [moved] at sending
        cases (erased _).symm.trans sending
    | @passed _ request _ =>
      cases concerned
      cases (noted s _).symm.trans sending
      exact .inl ⟨s, "", request, rfl, rfl⟩
    | loginDone _ _ => cases concerned; cases (erased _).symm.trans sending
    | loginFailed _ _ => cases concerned; cases (erased _).symm.trans sending
    | answered _ => cases concerned; cases (erased _).symm.trans sending
  · refine .inr ⟨(move.others concerned).symm.trans sending, fun request shown => ?_⟩
    exact concerned (move.shows shown)

theorem step_answer_sending {s : Session} {id : TaskId} {goal : Goal}
    (sending : s.task? id = some ⟨goal, .sending⟩) (answer : Except TransportError HttpResponse) :
    s.step (.answer id answer) = s.finish id (outcomeOf goal answer) := by
  simp only [step, sending, Session.answer]

theorem run_aside {s : Session} {id : TaskId} {events : List Event}
    (aside : ∀ event ∈ events, event.task? ≠ some id) : (s.run events).1.task? id = s.task? id := by
  induction events generalizing s with
  | nil => rfl
  | cons event events ih =>
    obtain ⟨first, aside⟩ := List.forall_mem_cons.mp aside
    exact (ih aside).trans ((step_move s event).others first)

end Session

namespace Connection

variable {σ : Type} {transport : Transport σ} {connection start : Connection σ} {id : TaskId}

/-- An operation whose own request is on its way is among those that wait for an answer, with a
request of its own. -/
def Expects (connection : Connection σ) (id : TaskId) : Prop :=
  ∀ goal, connection.session.task? id = some ⟨goal, .sending⟩ →
    ∃ (now : Session) (token : String) (request : HttpRequest),
      now.ownRequest token goal = some (.ok request) ∧
        connection.unanswered.lookup id = some request

theorem lookup_requests {outputs : List Output}
    (none_sent : ∀ request, .sent id request ∉ outputs) : (requests outputs).lookup id = none := by
  refine List.lookup_eq_none_iff.mpr fun entry mem => ?_
  obtain ⟨output, shown, same⟩ := List.mem_filterMap.mp mem
  cases output with
  | finished other outcome => cases same
  | sent other request =>
    cases same
    refine bne_iff_ne.mpr fun same => ?_
    cases same
    exact none_sent request shown

theorem Expects.feed (h : connection.Expects id) (event : Event) :
    (connection.feed event).1.Expects id := by
  intro goal sending
  have unanswered : (connection.feed event).1.unanswered =
      requests (connection.session.step event).2 ++ connection.unanswered := rfl
  obtain ⟨now, token, request, own, sent⟩ | ⟨before, none_sent⟩ := Session.step_sending sending
  · refine ⟨now, token, request, own, ?_⟩
    rw [unanswered, sent]
    simp [requests]
  · obtain ⟨now, token, request, own, waits⟩ := h goal before
    refine ⟨now, token, request, own, ?_⟩
    rw [unanswered, List.lookup_append, lookup_requests none_sent]
    exact waits

theorem Expects.note (h : connection.Expects id) (events : List Event) :
    (connection.note events).Expects id := by
  induction events generalizing connection with
  | nil => exact h
  | cons event events ih => exact ih (h.feed event)

/-- The connection in which an answer arrives: its redirects and cookies are known already. -/
def arriving (transport : Transport σ) (connection : Connection σ) (id : TaskId)
    (served : Served σ) : Connection σ :=
  let emptied : Connection σ :=
    { connection with
      network := served.network
      unanswered := connection.unanswered.filter fun entry => entry.1 ≠ id }
  emptied.note (served.redirects.map .redirected ++ [.cookies (transport.holds served.network)])

theorem serve_eq {request : HttpRequest} {served : Served σ}
    (waits : connection.unanswered.lookup id = some request)
    (serves : transport.serve connection.network request = some served) :
    connection.serve transport id =
      (connection.arriving transport id served).feed (.answer id served.answer) := by
  simp only [serve, waits, serves]
  rfl

theorem task?_arriving (served : Served σ) (other : TaskId) :
    (connection.arriving transport id served).session.task? other =
      connection.session.task? other := by
  rw [arriving, note_session]
  refine Session.run_aside fun event mem => ?_
  rcases List.mem_append.mp mem with mem | mem
  · obtain ⟨authority, -, rfl⟩ := List.mem_map.mp mem
    exact nofun
  · rw [List.mem_singleton.mp mem]
    exact nofun

/-- The answer to one operation leaves those that others wait for. -/
theorem Expects.serve (h : connection.Expects id) (other : TaskId) :
    (connection.serve transport other).1.Expects id := by
  cases waits : connection.unanswered.lookup other with
  | none => simpa only [Connection.serve, waits] using h
  | some request =>
    cases serves : transport.serve connection.network request with
    | none => simpa only [Connection.serve, waits, serves] using h
    | some served =>
      rw [serve_eq waits serves]
      by_cases same : id = other
      · subst same
        intro goal sending
        have stepped : ((connection.arriving transport id served).session.step
            (.answer id served.answer)).1.task? id = some ⟨goal, .sending⟩ := sending
        obtain ⟨now, token, request, own, sent⟩ | ⟨before, -⟩ := Session.step_sending stepped
        · refine ⟨now, token, request, own, ?_⟩
          show (requests ((connection.arriving transport id served).session.step
            (.answer id served.answer)).2 ++ _).lookup id = _
          rw [sent]
          simp [requests]
        · -- it was waiting for this answer, so now it is over
          have erased := (Session.task?_eraseTask
            (connection.arriving transport id served).session id id).trans (if_pos rfl)
          rw [Session.step_answer_sending before] at stepped
          cases erased.symm.trans stepped
      · refine Expects.feed (Expects.note (fun goal sending => ?_) _) _
        obtain ⟨now, token, request, own, waits⟩ := h goal sending
        exact ⟨now, token, request, own,
          (Session.lookup_filter_ne _ other id).trans ((if_neg same).trans waits)⟩

theorem Expects.drop (h : connection.Expects id) (other : TaskId) :
    (connection.drop other).Expects id := by
  have noted := h.note [.drop other]
  intro goal sending
  by_cases same : id = other
  · subst same
    have gone : (connection.session.step (.drop id)).1.task? id = none := by
      simp only [Session.step]
      split
      · exact (Session.task?_eraseTask connection.session id id).trans (if_pos rfl)
      · assumption
    cases gone.symm.trans sending
  · obtain ⟨now, token, request, own, waits⟩ := noted goal sending
    exact ⟨now, token, request, own,
      (Session.lookup_filter_ne _ other id).trans ((if_neg same).trans waits)⟩

theorem Expects.onNetwork (h : connection.Expects id) (change : σ → σ) :
    (connection.onNetwork transport change).Expects id := by
  have changed : ({ connection with network := change connection.network } :
    Connection σ).Expects id := h
  exact changed.note _

/-! ## Connections that are reached -/

/-- The connections that come about from one: after events and answers in any order, after changes
of the network, and where operations and their requests are dropped. -/
inductive Reached (transport : Transport σ) (start : Connection σ) : Connection σ → Prop where
  | here : Reached transport start start
  | fed {connection : Connection σ} (event : Event) : Reached transport start connection →
      Reached transport start (connection.feed event).1
  | served {connection : Connection σ} (id : TaskId) : Reached transport start connection →
      Reached transport start (connection.serve transport id).1
  | changed {connection : Connection σ} (change : σ → σ) : Reached transport start connection →
      Reached transport start (connection.onNetwork transport change)
  | dropped {connection : Connection σ} (id : TaskId) : Reached transport start connection →
      Reached transport start (connection.drop id)

theorem Reached.poll (reached : Reached transport start connection) (id : TaskId) :
    Reached transport start (connection.poll transport id).1 :=
  .served id (.served id (.fed (.poll id) reached))

theorem Reached.act (reached : Reached transport start connection) (action : Action σ) :
    Reached transport start ((machine transport).act connection action).1 := by
  cases action with
  | event told => exact .fed told reached
  | poll id => exact reached.poll id
  | watched watch id =>
    exact Watch.poll_preserves (P := Reached transport start) (fun _ h => h.poll id)
      (fun _ h => .dropped id h) watch reached
  | drop id => exact .dropped id reached
  | network change => exact .changed change reached

/-- What a script comes to is reached. -/
theorem reached_run (start : Connection σ) (script : List (Action σ)) :
    Reached transport start ((machine transport).run start script) :=
  Machine.run_invariant (P := Reached transport start) (fun action _ _ h => h.act action) .here

theorem Reached.expects (reached : Reached transport start connection)
    (idle : start.session.tasks = []) (id : TaskId) : connection.Expects id := by
  induction reached with
  | here =>
    intro goal sending
    rw [Session.task?, idle] at sending
    cases sending
  | fed event _ ih => exact ih.feed event
  | served other _ ih => exact ih.serve other
  | changed change _ ih => exact ih.onNetwork change
  | dropped other _ ih => exact ih.drop other

/-- The answer to its own request ends an operation. -/
theorem serve_sending {goal : Goal} {request : HttpRequest} {served : Served σ}
    (sending : connection.session.task? id = some ⟨goal, .sending⟩)
    (waits : connection.unanswered.lookup id = some request)
    (serves : transport.serve connection.network request = some served) :
    (connection.serve transport id).2 = [.finished id (Session.outcomeOf goal served.answer)] := by
  rw [serve_eq waits serves]
  exact congrArg Prod.snd
    (Session.step_answer_sending ((task?_arriving served id).trans sending) served.answer)

end Connection

/-! ## Calls that send an envelope -/

namespace Call

/-- The calls of a client that send an envelope. -/
inductive Carries : {α : Type} → Call α → RequestEnvelope → Prop where
  | conf {envelope : RequestEnvelope} : Carries (.conf envelope) envelope
  | confOf {β : Type} {payload : Bytes → Except DecodeError β} {envelope : RequestEnvelope} :
      Carries (.confOf payload envelope) envelope
  | confDone {envelope : RequestEnvelope} : Carries (.confDone envelope) envelope
  | stat {β : Type} {payload : Bytes → Except DecodeError β} {envelope : RequestEnvelope} :
      Carries (.stat payload envelope) envelope
  | statOf {β : Type} {payload : Bytes → Except DecodeError β} {envelope : RequestEnvelope} :
      Carries (.statOf payload envelope) envelope
  | command {envelope : RequestEnvelope} : Carries (.command envelope) envelope

variable {α : Type} {call : Call α} {envelope : RequestEnvelope}

def TooLarge (result : Except ClientError α) : Prop :=
  ∃ limit, result = .error (.transport (.bodyTooLarge limit))

theorem Carries.goal_eq (carries : call.Carries envelope) : call.goal = envelope.goal := by
  cases carries <;> rfl

theorem readConf_ne_transport (body : Bytes) (error : TransportError) :
    readConf body ≠ .error (.transport error) := by
  intro h
  unfold readConf at h
  split at h
  · cases h
  · split at h <;> cases h

theorem decoding_ne_transport (read : Bytes → Except DecodeError α) (body : Bytes)
    (error : TransportError) : decoding read body ≠ .error (.transport error) := by
  intro h
  unfold decoding at h
  split at h <;> cases h

theorem bind_ne_transport {β : Type} {read : Except ClientError β}
    {more : β → Except ClientError α} {error : TransportError}
    (first : read ≠ .error (.transport error)) (later : ∀ b, more b ≠ .error (.transport error)) :
    read.bind more ≠ .error (.transport error) := by
  cases read with
  | error failure => exact fun h => first (congrArg Except.error (Except.error.inj h))
  | ok b => exact later b

/-- What a body says is never that there was none. -/
theorem Carries.interpret_ne_transport (carries : call.Carries envelope) (body : Bytes)
    (error : TransportError) : call.interpret body ≠ .error (.transport error) := by
  cases carries with
  | conf => exact readConf_ne_transport body error
  | confOf =>
    exact bind_ne_transport (readConf_ne_transport body error) fun _ =>
      decoding_ne_transport _ _ error
  | confDone => exact bind_ne_transport (readConf_ne_transport body error) fun _ => nofun
  | stat => exact decoding_ne_transport _ body error
  | statOf => exact bind_ne_transport (decoding_ne_transport _ body error) fun _ => nofun
  | command => exact decoding_ne_transport _ body error

end Call

namespace Connection

variable {σ α : Type} {network : HttpNetwork σ} {settings : TransportSettings}
  {connection : Connection (HttpState σ)} {id : TaskId} {call : Call α} {envelope : RequestEnvelope}

/-- What a call gives that sends an envelope, from a body that is or is not within the smaller one
of the two limits. -/
theorem Expects.gives (h : connection.Expects id) (carries : call.Carries envelope)
    (sending : connection.session.task? id = some ⟨call.goal, .sending⟩) :
    ∃ request, connection.unanswered.lookup id = some request ∧
      ∀ url answer, network.Answers settings connection.network request url answer →
        ∃ outcome,
          (connection.serve (network.transport settings) id).2 = [.finished id outcome] ∧
          call.finish outcome =
            if ¬ answer.body.Fits (min defaultBodyLimit settings.bodyLimit) then
              .error (.transport (.bodyTooLarge (min defaultBodyLimit settings.bodyLimit)))
            else if answer.body.broken then .error (.transport .http)
            else if answer.status = 200 then call.interpret answer.body.chunks.flatten
            else .error (.transport (.status answer.status envelope.kind.path)) := by
  obtain ⟨now, token, request, own, waits⟩ := h call.goal sending
  have limit_eq : request.bodyLimit = defaultBodyLimit := by
    rw [carries.goal_eq] at own
    obtain ⟨_, _, _, _, -, rfl⟩ | ⟨_, _, _, other, -⟩ | other := Session.ownRequest_cases own
    · rfl
    · cases other
    · cases other
  refine ⟨request, waits, fun url answer answers => ⟨_, serve_sending sending waits rfl, ?_⟩⟩
  have outcome_eq := answers.outcome_eq
  rw [limit_eq, WireBody.read_eq] at outcome_eq
  show call.finish (Session.outcomeOf call.goal
    (network.send settings connection.network request).outcome) = _
  rw [outcome_eq, carries.goal_eq]
  split
  · rfl
  · split
    · rfl
    · by_cases success : answer.status = 200 <;>
        simp [Session.outcomeOf, RequestEnvelope.goal, HttpResponse.isOk, Except.map, success,
          Call.finish, Gain.octets, ClientError.ofSession, ClientError.ofTransport]

end Connection

/-! ## Answers that are too large -/

/-- An envelope is sent once its call waits for nothing else, and carries the limit of requests where
nothing else is said. So its answer is too large if it has more octets than the smaller one of this
and the configured limit. The configured limit decides alone, except for bodies between the two. -/
theorem body_limit_decides {σ α : Type} (network : HttpNetwork σ) (settings : TransportSettings)
    {start connection : Connection (HttpState σ)} {call : Call α} {envelope : RequestEnvelope}
    {id : TaskId} (carries : call.Carries envelope) (idle : start.session.tasks = [])
    (reached : Connection.Reached (network.transport settings) start connection)
    (sending : connection.session.task? id = some ⟨call.goal, .sending⟩) :
    ∃ request, connection.unanswered.lookup id = some request ∧
      ∀ url answer, network.Answers settings connection.network request url answer →
        (∀ n ∈ answer.body.declared, n = answer.body.chunks.flatten.length) →
        ∃ outcome,
          (connection.serve (network.transport settings) id).2 = [.finished id outcome] ∧
          let result := call.finish outcome
          let body := answer.body.chunks.flatten
          let limit := min defaultBodyLimit settings.bodyLimit
          (Call.TooLarge result ↔ limit < body.length) ∧
          (limit < body.length → result = .error (.transport (.bodyTooLarge limit))) ∧
          (body.length ≤ limit → answer.body.broken = false → answer.status = 200 →
            result = call.interpret body) ∧
          ((Call.TooLarge result ↔ settings.bodyLimit < body.length) ↔
            ¬ (defaultBodyLimit < body.length ∧ body.length ≤ settings.bodyLimit)) := by
  obtain ⟨request, waits, gives⟩ := (reached.expects idle id).gives carries sending
  refine ⟨request, waits, fun url answer answers honest => ?_⟩
  obtain ⟨outcome, finished, result_eq⟩ := gives url answer answers
  refine ⟨outcome, finished, ?_⟩
  intro result body limit
  have fits_iff : answer.body.Fits limit ↔ body.length ≤ limit :=
    ⟨And.right, fun within => ⟨fun n announced => honest n announced ▸ within, within⟩⟩
  replace result_eq : result = _ := result_eq
  rw [show min defaultBodyLimit settings.bodyLimit = limit from rfl] at result_eq
  simp only [fits_iff, Nat.not_le] at result_eq
  have too_large_iff : Call.TooLarge result ↔ limit < body.length := by
    constructor
    · rintro ⟨n, failed⟩
      by_contra within
      rw [if_neg within] at result_eq
      rw [result_eq] at failed
      split at failed
      · cases failed
      · split at failed
        · exact carries.interpret_ne_transport _ _ failed
        · cases failed
    · intro beyond
      rw [if_pos beyond] at result_eq
      exact ⟨_, result_eq⟩
  refine ⟨too_large_iff, fun beyond => ?_, fun within unbroken success => ?_, ?_⟩
  · rw [result_eq, if_pos beyond]
  · rw [result_eq, if_neg (Nat.not_lt.mpr within), if_neg (by simp [unbroken]), if_pos success]
  · rw [too_large_iff]
    omega

/-- A network that lets everybody log in, and has one answer to all that comes with a token. -/
def HttpNetwork.admitting (answer : WireAnswer) : HttpNetwork Unit where
  exchange _ request :=
    match request.csrfToken with
    | none => ((), some { body := { chunks := [utf8 "<script>var csfrToken = 't';</script>"] } })
    | some _ => ((), some answer)

theorem HttpNetwork.admitting_answers {settings : TransportSettings} {state : HttpState Unit}
    {answer : WireAnswer} {url : Url} {token : String} (body : Bytes)
    (sendable : isHeaderValue token = true) (ends : answer.target? url = none) :
    (admitting answer).Answers settings state ((HttpRequest.post url body).withToken token) url
      answer :=
  ⟨sendable, [], _, _, _, .here, Nat.zero_le _, rfl, ends, rfl⟩

/-- A command over such a network, just after its login. -/
def Connection.admitted (settings : TransportSettings) (answer : WireAnswer) :
    Connection (HttpState Unit) :=
  let transport := (HttpNetwork.admitting answer).transport settings
  let start : Connection (HttpState Unit) :=
    { session := .opened .http .concurrent "a" ⟨"u", "p"⟩ fun _ => false
      network := { network := () } }
  let goal := (Call.command (.command "stamgr")).goal
  let started := (machine transport).run start [.event (.start 0 goal)]
  ((started.feed (.poll 0)).1.serve transport 0).1

theorem Connection.admitted_reached (settings : TransportSettings) (answer : WireAnswer) :
    ∃ start, start.session.tasks = [] ∧
      Reached ((HttpNetwork.admitting answer).transport settings) start (admitted settings answer) :=
  ⟨_, rfl, .served 0 (.fed (.poll 0) (reached_run _ _))⟩

/-- A body of forty-one octets, with a limit of forty. -/
theorem body_limit_decides_forty :
    let settings : TransportSettings := { scheme := .http, bodyLimit := 40 }
    let answer : WireAnswer := { body := { chunks := [List.replicate 41 0] } }
    let network := HttpNetwork.admitting answer
    let connection := Connection.admitted settings answer
    let call := Call.command (.command "stamgr")
    ∃ outcome, (connection.serve (network.transport settings) 0).2 = [.finished 0 outcome] ∧
      call.finish outcome = .error (.transport (.bodyTooLarge 40)) := by
  intro settings answer network connection call
  obtain ⟨start, idle, reached⟩ := Connection.admitted_reached settings answer
  have sending : connection.session.task? 0 = some ⟨call.goal, .sending⟩ := by decide +kernel
  let url : Url :=
    ⟨"http", "", "", some (.domain "a"), none, .segments ["admin", "_cmdstat.jsp"], none, none⟩
  let request := (HttpRequest.post url (RequestEnvelope.command "stamgr").encode).withToken "t"
  have waits : connection.unanswered.lookup 0 = some request := by decide +kernel
  obtain ⟨request', waits', gives⟩ :=
    body_limit_decides network settings .command idle reached sending
  cases waits.symm.trans waits'
  have answers : network.Answers settings connection.network request url answer :=
    HttpNetwork.admitting_answers _ (by decide) (by decide)
  obtain ⟨outcome, finished, -, too_large, -⟩ := gives url answer answers nofun
  exact ⟨outcome, finished, too_large (by decide)⟩

/-- A body within a limit of twenty mebibytes, but not within the one of requests. -/
theorem larger_limit_in_vain :
    let settings : TransportSettings := { scheme := .http, bodyLimit := 2 * defaultBodyLimit }
    let body := List.replicate (defaultBodyLimit + 1) 0
    let answer : WireAnswer := { body := { chunks := [body] } }
    let network := HttpNetwork.admitting answer
    let connection := Connection.admitted settings answer
    let call := Call.command (.command "stamgr")
    answer.status = 200 ∧ body.length ≤ settings.bodyLimit ∧
      ∃ request url outcome, connection.unanswered.lookup 0 = some request ∧
        network.Answers settings connection.network request url answer ∧
        (connection.serve (network.transport settings) 0).2 = [.finished 0 outcome] ∧
        call.finish outcome = .error (.transport (.bodyTooLarge defaultBodyLimit)) := by
  intro settings body answer network connection call
  have length_eq : body.length = defaultBodyLimit + 1 := List.length_replicate
  have limit_eq : min defaultBodyLimit settings.bodyLimit = defaultBodyLimit := by decide
  have beyond : ¬ answer.body.Fits defaultBodyLimit := by
    rintro ⟨-, within⟩
    rw [show answer.body.chunks.flatten = body from List.append_nil body, length_eq] at within
    omega
  obtain ⟨start, idle, reached⟩ := Connection.admitted_reached settings answer
  have sending : connection.session.task? 0 = some ⟨call.goal, .sending⟩ := by decide +kernel
  let url : Url :=
    ⟨"http", "", "", some (.domain "a"), none, .segments ["admin", "_cmdstat.jsp"], none, none⟩
  let request := (HttpRequest.post url (RequestEnvelope.command "stamgr").encode).withToken "t"
  have waits : connection.unanswered.lookup 0 = some request := by decide +kernel
  obtain ⟨request', waits', gives⟩ := (reached.expects idle 0).gives .command sending
  cases waits.symm.trans waits'
  have answers : network.Answers settings connection.network request url answer :=
    HttpNetwork.admitting_answers _ (by decide) rfl
  obtain ⟨outcome, finished, result_eq⟩ := gives url answer answers
  rw [limit_eq, if_pos beyond] at result_eq
  refine ⟨rfl, ?_, request, url, outcome, waits, answers, finished, result_eq⟩
  rw [length_eq]
  decide

end WlanAdmin
