import WlanAdmin.Client.Connection
import WlanAdmin.Proofs.Session.Absence

/-!
# WlanAdmin.Proofs.Session.Cancellation

Giving up on an operation, at any moment of a run. Whether its token fires or its deadline elapses,
the operation is dropped, and nothing is left of it but the logins that it has completed and the
redirects that have been reported.

* `completed`, `run_login_completed` : the logins of a run, each with the operation that made it.
* `NoTrace` : what is left of a session once an operation is given up.
* `drop_noTrace` : a dropped operation leaves no trace.
* `given_up` : what a caller that watches a token or a deadline finds.
-/

namespace WlanAdmin

/-! ## Watching -/

namespace Watch

variable {S : Type} {run : S → S × List Output} {drop : S → S} {isLive : S → Bool} {state : S}

/-- A token that has fired keeps an operation from running. -/
theorem poll_fired :
    (token true).poll run drop isLive state = (drop state, [], some .cancelled) := rfl

/-- A deadline that has elapsed ends an operation that has to wait when it has run. -/
theorem poll_elapsed (waits : isLive (run state).1 = true) :
    (deadline true).poll run drop isLive state =
      (drop (run state).1, (run state).2, some .timedOut) := if_pos waits

end Watch

namespace Session

/-! ## Whose login is stored -/

/-- The logins that succeed in a run, each with the operation that has logged in. -/
def completed (s : Session) : List Event → List (TaskId × LoginResult)
  | [] => []
  | event :: rest =>
    (event.task?.bind fun id => (s.gains event).map (Prod.mk id)).toList ++
      (s.step event).1.completed rest

theorem gains_concerned {s : Session} {event : Event} {login : LoginResult}
    (gained : s.gains event = some login) : ∃ id, event.task? = some id := by
  obtain ⟨id, _, _, rfl, -, -⟩ := gains_iff.mp gained
  exact ⟨id, rfl⟩

theorem completed_logins (s : Session) (events : List Event) :
    (s.completed events).map Prod.snd = s.logins events := by
  induction events generalizing s with
  | nil => rfl
  | cons event rest ih =>
    have first : (event.task?.bind fun id => (s.gains event).map (Prod.mk id)).toList.map Prod.snd =
        (s.gains event).toList := by
      cases gained : s.gains event with
      | none => cases event.task? <;> rfl
      | some login =>
        obtain ⟨id, concerned⟩ := gains_concerned gained
        simp [concerned]
    rw [completed, logins, List.map_append, first, ih]

/-- The stored login is the last one that was completed. -/
theorem run_login_completed (scheme : Scheme) (refresh : Refresh) (host : String)
    (credentials : Credentials) (holds : Url → Bool) (events : List Event) :
    let start := opened scheme refresh host credentials holds
    (start.run events).1.context.login = (start.completed events).getLast?.map Prod.snd := by
  intro start
  rw [run_login, ← completed_logins, List.getLast?_map]
  exact Option.or_none

/-- The last of a list is left aside, or it is the last of those that are not. -/
theorem getLast?_filter_cases {α : Type} (keep : α → Bool) (list : List α) :
    (∃ last, list.getLast? = some last ∧ keep last = false) ∨
      (list.filter keep).getLast? = list.getLast? := by
  rcases list.eq_nil_or_concat with rfl | ⟨front, last, rfl⟩
  · exact .inr rfl
  · cases kept : keep last with
    | false => exact .inl ⟨last, by simp, kept⟩
    | true => exact .inr (by simp [kept])

/-- What a run tells of something besides operations, events that concern one do not tell. -/
theorem filterMap_of_unconcerned {α : Type} {tell : Event → Option α} {id : TaskId}
    (silent : ∀ event, event.task? = some id → tell event = none) (events : List Event) :
    (Event.besides id events).filterMap tell = events.filterMap tell := by
  induction events with
  | nil => rfl
  | cons event rest ih =>
    by_cases concerned : event.task? = some id
    · rw [Event.besides_own concerned, ih,
        List.filterMap_cons_none (silent event concerned)]
    · rw [Event.besides_other concerned, List.filterMap_cons,
        List.filterMap_cons, ih]

/-! ## What is left -/

/-- What is left of a session when an operation is given up after a run. -/
structure NoTrace (start : Session) (events : List Event) (id : TaskId) (left : Session) :
    Prop where
  gone : left.task? id = none
  others : ∀ other, other ≠ id → left.task? other = (start.run events).1.task? other
  /-- Whatever concerns it later changes nothing, and it shows nothing more. -/
  quiet : ∀ later, (∀ goal, .start id goal ∉ later) →
    left.run later = left.run (Event.besides id later) ∧
      ∀ output ∈ (left.run later).2, output.task ≠ id
  /-- To give it up changes nothing of what the session knows. -/
  known : left.context = (start.run events).1.context ∧ left.holds = (start.run events).1.holds
  /-- The host is that of the last redirect that was reported, whoever it was for. -/
  host : left.context.host =
    ((Event.besides id events).filterMap Event.host?).getLast?.getD start.context.host
  credentials : left.context.credentials =
    ((Event.besides id events).filterMap Event.credentials?).getLast?.getD start.context.credentials
  /-- The stored login is the last that others have completed, or one that it has completed. -/
  login : left.context.login =
      ((start.completed events).filter fun entry => entry.1 ≠ id).getLast?.map Prod.snd ∨
    ∃ login, (id, login) ∈ start.completed events ∧ left.context.login = some login
  /-- If it has completed none, and nobody has waited behind it, all is as if it had never been. -/
  unseen : Throughout (Unnoticed id) start events →
    start.run (Event.besides id events) =
      (left, (start.run events).2.filter fun output => output.task ≠ id)
  /-- The logins that are counted are those that others have begun and that are not over. -/
  counted : ∃ ids : List TaskId, ids.Nodup ∧
    (∀ other, other ∈ ids ↔ other ≠ id ∧ start.Outstanding events other) ∧
      left.loginsInFlight = ids.length
  /-- It neither has the gate nor waits for it. If it had it, the first that waits has it now. -/
  away : left.gate.owner ≠ some id ∧ id ∉ left.gate.waiting
  handed : (start.run events).1.gate.owner = some id →
    left.gate = ⟨(start.run events).1.gate.waiting.head?, (start.run events).1.gate.waiting.tail⟩
  kept : (start.run events).1.gate.owner ≠ some id →
    left.gate = ⟨(start.run events).1.gate.owner,
      (start.run events).1.gate.waiting.filter (· ≠ id)⟩

/-- The logins of the others go on. -/
theorem inside_drop (s : Session) (id other : TaskId) :
    (s.step (.drop id)).1.Inside other ↔ other ≠ id ∧ s.Inside other := by
  rw [inside_step]
  simp [Event.Ends, and_comm, eq_comm]

theorem drop_noTrace (scheme : Scheme) (refresh : Refresh) (host : String)
    (credentials : Credentials) (holds : Url → Bool) (events : List Event) (id : TaskId) :
    let start := opened scheme refresh host credentials holds
    NoTrace start events id ((start.run events).1.step (.drop id)).1 := by
  intro start
  have sound (before : List Event) : Sound (start.run before).1 :=
    run_sound scheme refresh host credentials holds before
  have taken := step_drop_eq_without (sound events) id
  have away : ((start.run events).1.without id).task? id = none :=
    (task?_eraseTask _ id id).trans (if_pos rfl)
  have no_host (event : Event) (own : event.task? = some id) : event.host? = none := by
    cases event <;> first | rfl | cases own
  have no_credentials (event : Event) (own : event.task? = some id) :
      event.credentials? = none := by
    cases event <;> first | rfl | cases own
  have counted : Counted ((start.run events).1.step (.drop id)).1 :=
    (step_move _ _).counted (sound events).counted
  refine
    { gone := taken ▸ away
      others := fun other ne =>
        (step_move _ (.drop id)).others fun same => ne (Option.some.inj same).symm
      quiet := fun later once => ?_
      known := taken ▸ ⟨rfl, rfl⟩
      host := ?_, credentials := ?_, login := ?_
      unseen := fun unnoticed => ?_
      counted := ⟨_, counted.insiders_nodup, fun other => ?_, counted.count⟩
      away := taken ▸ (sound events).tidy.left id
      handed := fun owns => taken ▸ Gate.leave_of_owner owns
      kept := fun other => taken ▸ Gate.leave_of_other other }
  · obtain ⟨same, silent, -⟩ := run_absent (taken ▸ away) once
    exact ⟨same, silent⟩
  · rw [taken, filterMap_of_unconcerned no_host]
    exact run_host start events
  · rw [taken, filterMap_of_unconcerned no_credentials]
    exact run_credentials start events
  · have stored : ((start.run events).1.without id).context.login =
        (start.completed events).getLast?.map Prod.snd :=
      run_login_completed scheme refresh host credentials holds events
    rw [taken, stored]
    rcases getLast?_filter_cases (fun entry => entry.1 ≠ id) (start.completed events) with
      ⟨⟨other, login⟩, last, own⟩ | same
    · cases (by simpa using own : other = id)
      exact .inr ⟨login, List.mem_of_getLast? last, by rw [last]; rfl⟩
    · exact .inl (congrArg (Option.map Prod.snd) same.symm)
  · have never := run_without id [] sound (fun _ => rfl) unnoticed
    rw [taken]
    exact (without_of_gone (sound []) rfl ▸ never :)
  · rw [counted.mem_insiders, inside_drop]
    exact and_congr_right fun _ =>
      opened_inside_iff scheme refresh host credentials holds events other

/-- An operation that is given up before it has run was never there. -/
theorem start_drop (scheme : Scheme) (refresh : Refresh) (host : String)
    (credentials : Credentials) (holds : Url → Bool) (events : List Event) (id : TaskId)
    (goal : Goal) :
    let s := ((opened scheme refresh host credentials holds).run events).1
    s.task? id = none → ((s.step (.start id goal)).1.step (.drop id)).1 = s := by
  intro s gone
  have sound : Sound s := run_sound scheme refresh host credentials holds events
  have started : Sound (s.step (.start id goal)).1 := by
    have later := run_sound scheme refresh host credentials holds (events ++ [.start id goal])
    rwa [run_append] at later
  rw [step_drop_eq_without started, step_without_own sound rfl rfl, without_of_gone sound gone]

end Session

/-- A connection without an operation: it is dropped, and its requests wait no longer. -/
def Connection.released {σ : Type} (connection : Connection σ) (id : TaskId) : Connection σ :=
  { connection with
    session := (connection.session.step (.drop id)).1
    unanswered := connection.unanswered.filter fun entry => entry.1 ≠ id }

theorem Connection.drop_eq_released {σ : Type} (connection : Connection σ) (id : TaskId) :
    connection.drop id = connection.released id := by
  have silent : (connection.session.step (.drop id)).2 = [] := by
    simp only [Session.step]
    split <;> rfl
  simp only [drop, note, List.foldl_cons, List.foldl_nil, feed, silent, requests, released,
    List.filterMap_nil, List.nil_append]

theorem Connection.start_released {σ : Type} {connection : Connection σ} {id : TaskId} (goal : Goal)
    (never : ((connection.session.step (.start id goal)).1.step (.drop id)).1 = connection.session)
    (others : ∀ entry ∈ connection.unanswered, entry.1 ≠ id) :
    (connection.feed (.start id goal)).1.released id = connection := by
  have kept : (connection.unanswered.filter fun entry => entry.1 ≠ id) = connection.unanswered :=
    List.filter_eq_self.mpr fun entry mem => decide_eq_true (others entry mem)
  have silent : (connection.session.step (.start id goal)).2 = [] := rfl
  simp only [released, feed, never, silent, requests, List.filterMap_nil, List.nil_append, kept]

/-- To the caller, an operation that is given up fails with an error of the transport. -/
theorem Connection.runWatched_of_gaveUp {σ α : Type} {transport : Transport σ} {watch : Watch}
    {id : TaskId} {connection left : Connection σ} {outputs : List Output} {reason : TransportError}
    (finish : Outcome → Except ClientError α)
    (gaveUp : connection.pollWatched transport watch id = (left, outputs, some reason)) :
    connection.runWatched transport watch id finish =
      (left, outputs, some (.error (.transport reason))) := by
  rw [runWatched, gaveUp]
  rfl

namespace Session

/-- An operation that is under way after any run is given up: its token fires, and it does not run
any more, or its deadline elapses, and it still has to wait after whatever else has happened. The
result says which, the operation is dropped, and it leaves no trace. One whose token has fired
before it first runs was never there. To the caller, either is an error of the transport. -/
theorem given_up (scheme : Scheme) (refresh : Refresh) (host : String)
    (credentials : Credentials) (holds : Url → Bool) (events : List Event) {id : TaskId}
    {task : Task}
    (live : ((opened scheme refresh host credentials holds).run events).1.task? id = some task) :
    let start := opened scheme refresh host credentials holds
    let s := (start.run events).1
    let left := (s.step (.drop id)).1
    NoTrace start events id left ∧
      s.pollWatched (.token true) id = (left, [], some .cancelled) ∧
      (∀ earlier progress, events = earlier ++ progress →
        (Watch.deadline true).poll (·.run progress) (fun s => (s.step (.drop id)).1)
          (fun s => (s.task? id).isSome) (start.run earlier).1 =
            (left, ((start.run earlier).1.run progress).2, some .timedOut)) ∧
      (∀ {σ α : Type} (transport : Transport σ) (connection : Connection σ)
        (finish : Outcome → Except ClientError α), connection.session = s →
        connection.runWatched transport (.token true) id finish =
          (connection.released id, [], some (.error (.transport .cancelled)))) ∧
      (∀ {σ α : Type} (transport : Transport σ) (connection : Connection σ)
        (finish : Outcome → Except ClientError α),
        let polled := connection.poll transport id
        polled.1.session = s → connection.runWatched transport (.deadline true) id finish =
          (polled.1.released id, polled.2, some (.error (.transport .timedOut)))) ∧
      ∀ fresh goal, s.task? fresh = none →
        (s.step (.start fresh goal)).1.pollWatched (.token true) fresh =
          (s, [], some .cancelled) ∧
        ∀ {σ α : Type} (transport : Transport σ) (connection : Connection σ)
          (finish : Outcome → Except ClientError α), connection.session = s →
          (∀ entry ∈ connection.unanswered, entry.1 ≠ fresh) →
          (connection.feed (.start fresh goal)).1.runWatched transport (.token true) fresh finish =
            (connection, [], some (.error (.transport .cancelled))) := by
  intro start s left
  refine ⟨drop_noTrace scheme refresh host credentials holds events id, Watch.poll_fired, ?_, ?_,
    ?_, ?_⟩
  · intro earlier progress split
    have reached : ((start.run earlier).1.run progress).1 = s := by
      rw [← run_append, ← split]
    have waits : (((start.run earlier).1.run progress).1.task? id).isSome := by
      rw [reached, live]
      rfl
    rw [Watch.poll_elapsed waits, reached]
  · intro σ α transport connection finish _
    exact Connection.runWatched_of_gaveUp finish
      (Watch.poll_fired.trans (by rw [Connection.drop_eq_released]))
  · intro σ α transport connection finish polled reached
    have waits : polled.1.isLive id = true := by
      rw [Connection.isLive, reached, live]
      rfl
    exact Connection.runWatched_of_gaveUp finish
      ((Watch.poll_elapsed waits).trans (by rw [Connection.drop_eq_released]))
  · intro fresh goal gone
    have never : ((s.step (.start fresh goal)).1.step (.drop fresh)).1 = s :=
      start_drop scheme refresh host credentials holds events fresh goal gone
    refine ⟨Watch.poll_fired.trans (by rw [never]), ?_⟩
    intro σ α transport connection finish there others
    refine Connection.runWatched_of_gaveUp finish (Watch.poll_fired.trans ?_)
    rw [Connection.drop_eq_released, Connection.start_released goal (there ▸ never) others]

/-- A login is cancelled while another operation waits behind it: no login is counted any more, and
the other has the gate. -/
theorem given_up_inside_login :
    let start := opened .https .singleFlight "h" ⟨"u", "p"⟩ fun _ => false
    let events : List Event := [.start 0 .token, .poll 0, .start 1 (.get "/x" 1), .poll 1]
    let s := (start.run events).1
    let left := (s.step (.drop 0)).1
    s.task? 0 = some ⟨.token, .loggingIn⟩ ∧ s.gate = ⟨some 0, [1]⟩ ∧ s.loginsInFlight = 1 ∧
      s.pollWatched (.token true) 0 = (left, [], some .cancelled) ∧
      (∀ (transport : Transport Unit) (finish : Outcome → Except ClientError Unit),
        let connection : Connection Unit := { session := s, network := () }
        connection.runWatched transport (.token true) 0 finish =
          (connection.released 0, [], some (.error (.transport .cancelled)))) ∧
      NoTrace start events 0 left ∧ left.gate = ⟨some 1, []⟩ ∧ left.loginsInFlight = 0 := by
  intro start events s left
  have live : s.task? 0 = some ⟨.token, .loggingIn⟩ := by decide +kernel
  have gate : s.gate = ⟨some 0, [1]⟩ := by decide +kernel
  have count : s.loginsInFlight = 1 := by decide +kernel
  have counted : left.loginsInFlight = 0 := by decide +kernel
  -- nothing further is to be computed of the run
  clear_value events
  obtain ⟨trace, cancelled, -, reported, -⟩ :=
    given_up .https .singleFlight "h" ⟨"u", "p"⟩ (fun _ => false) events live
  have caller (transport : Transport Unit) (finish : Outcome → Except ClientError Unit) :=
    reported transport { session := s, network := () } finish rfl
  exact ⟨live, gate, count, cancelled, caller, trace,
    (trace.handed (congrArg Gate.owner gate)).trans (by rw [gate]; rfl), counted⟩

end Session
end WlanAdmin
