import WlanAdmin.Proofs.Session.Advance
import WlanAdmin.Proofs.Session.SingleFlight

/-!
# WlanAdmin.Proofs.Session.Apart

Operations that do not overlap: each is over, or dropped, before the next one is started. Then the
gate is always found free, and what it is for cannot be seen from outside.

* `Apart`, `Solo` : a start while nothing else is under way, and what holds as long as all are such.
* `Solo.gate_free`, `Solo.logs_in` : an operation that has not run yet finds the gate free, and logs
  in if it finds no token.
* `ungated` : a session without its gate.
* `step_ungated`, `run_ungated` : without the gate the same happens.
* `strategies_agree` : the two strategies cannot be told apart by operations that do not overlap.
-/

namespace WlanAdmin
namespace Session

/-- An event does not start an operation while another is under way. One that is started in the
place of another drops that first. -/
def Apart (s : Session) : Event → Prop
  | .start id _ => ∀ entry ∈ s.tasks, entry.1 = id
  | _ => True

instance (s : Session) : (event : Event) → Decidable (Apart s event)
  | .start id _ => inferInstanceAs (Decidable (∀ entry ∈ s.tasks, entry.1 = id))
  | .poll _ | .answer .. | .drop _ | .redirected _ | .cookies _ | .setCredentials _ =>
    .isTrue trivial

/-- One operation at most is under way, and it does not wait at the gate. -/
structure Solo (s : Session) : Prop where
  alone : ∀ a b, (s.task? a).isSome → (s.task? b).isSome → a = b
  unqueued : ∀ id goal, s.task? id ≠ some ⟨goal, .queued⟩

theorem mem_tasks {s : Session} {id : TaskId} {task : Task} (h : s.task? id = some task) :
    (id, task) ∈ s.tasks := by
  obtain ⟨before, after, split, -⟩ := List.lookup_eq_some_iff.mp h
  rw [split]
  exact List.mem_append_right _ List.mem_cons_self

/-- The operations that are under way after an event: those before it, and one that it starts. -/
theorem Move.under_way {s : Session} {event : Event} {moved : Moved} (move : Move s event moved)
    {id : TaskId} (live : (moved.1.task? id).isSome) :
    (s.task? id).isSome ∨ ∃ goal, event = .start id goal := by
  by_cases concerned : event.task? = some id
  · cases gone : s.task? id with
    | some task => exact .inl rfl
    | none =>
      by_cases going : ∀ other, event ≠ .start id other
      · rw [move.absent concerned gone going, gone] at live
        cases live
      · exact .inr (by simpa using going)
  · rw [move.others concerned] at live
    exact .inl live

theorem Solo.opened (scheme : Scheme) (refresh : Refresh) (host : String)
    (credentials : Credentials) (holds : Url → Bool) :
    Solo (opened scheme refresh host credentials holds) where
  alone _ _ live _ := by cases live
  unqueued _ _ := nofun

/-- An operation that is by itself and has not run yet finds the gate free. -/
theorem Solo.gate_free {s : Session} (solo : Solo s) (guarded : Guarded s) {id : TaskId}
    {goal : Goal} (fresh : s.task? id = some ⟨goal, .fresh⟩) : s.gate = {} := by
  refine guarded.gate_free fun other here => ?_
  -- whoever is at the gate is under way, so it is this operation, which is not there
  have live : (s.task? other).isSome := by
    rcases here with ⟨_, -, h⟩ | ⟨_, -, h⟩ <;> rw [h] <;> rfl
  cases solo.alone other id live (by rw [fresh]; rfl)
  exact absurd here (not_atGate_of_fresh fresh)

/-- An operation waits at the gate only after it has found the gate taken, or where it waited
before. -/
theorem Move.queues {s : Session} {event : Event} {moved : Moved} (move : Move s event moved)
    {id : TaskId} {goal : Goal} (waits : moved.1.task? id = some ⟨goal, .queued⟩) :
    s.task? id = some ⟨goal, .queued⟩ ∨ s.task? id = some ⟨goal, .fresh⟩ ∧
      s.refresh = .singleFlight ∧ (s.gate.enter id).owner ≠ some id := by
  by_cases concerned : event.task? = some id
  · have erased (t : Session) : (t.eraseTask id).task? id ≠ some ⟨goal, .queued⟩ := by simp
    have set (t : Session) (task : Task) (h : task.stage ≠ .queued) :
        (t.setTask id task).task? id ≠ some ⟨goal, .queued⟩ := by
      rw [task?_setTask, if_pos rfl]
      rintro ⟨⟩
      exact h rfl
    cases move with
    | idle _ => exact .inl waits
    | redirected => cases concerned
    | cookies => cases concerned
    | credentials => cases concerned
    | started _ => cases concerned; exact absurd waits (set _ _ nofun)
    | replaced _ => cases concerned; exact absurd waits (set _ _ nofun)
    | dropped _ => cases concerned; exact absurd waits (erased _)
    | queued fresh _ single _ taken =>
      cases concerned
      cases waits.symm.trans ((task?_setTask _ id id _).trans (if_pos rfl))
      exact .inr ⟨fresh, single, taken⟩
    | @logsIn _ goal' s' entry =>
      cases concerned
      obtain ⟨_, -, h⟩ | ⟨_, h⟩ := startLogin_cases s' id goal' <;> rw [h] at waits
      · exact absurd waits (set s' ⟨goal', .loggingIn⟩ nofun)
      · exact absurd waits (erased _)
    | @granted _ goal' _ s' token grant =>
      cases grant.concerns.symm.trans concerned
      obtain ⟨_, -, h⟩ | ⟨_, h⟩ := withToken_cases s' id goal' token <;> rw [h] at waits
      · exact absurd waits (set s' ⟨goal', .sending⟩ nofun)
      · exact absurd waits (erased _)
    | passed _ => cases concerned; exact absurd waits (set _ _ nofun)
    | loginDone _ _ => cases concerned; exact absurd waits (erased _)
    | loginFailed _ _ => cases concerned; exact absurd waits (erased _)
    | answered _ => cases concerned; exact absurd waits (erased _)
  · exact .inl ((move.others concerned).symm.trans waits)

theorem Solo.step {s : Session} (solo : Solo s)
    (guarded : s.refresh = .singleFlight → Guarded s) {event : Event} (apart : Apart s event) :
    Solo (s.step event).1 := by
  have move := step_move s event
  have lone {a b : TaskId} (live : (s.task? a).isSome) (goal : Goal)
      (starts : event = .start b goal) : a = b := by
    subst starts
    obtain ⟨task, h⟩ := Option.isSome_iff_exists.mp live
    exact apart _ (mem_tasks h)
  constructor
  · intro a b liveA liveB
    rcases move.under_way liveA with liveA | ⟨goal, startsA⟩
    · rcases move.under_way liveB with liveB | ⟨goal, startsB⟩
      · exact solo.alone a b liveA liveB
      · exact lone liveA goal startsB
    · rcases move.under_way liveB with liveB | ⟨goal, startsB⟩
      · exact (lone liveB goal startsA).symm
      · cases startsA.symm.trans startsB
        rfl
  · intro id goal waits
    rcases move.queues waits with before | ⟨fresh, single, taken⟩
    · exact solo.unqueued id goal before
    · rw [solo.gate_free (guarded single) fresh] at taken
      exact taken rfl

theorem guarded_of_run {s : Session} (guarded : s.refresh = .singleFlight → Guarded s)
    (events : List Event) :
    (s.run events).1.refresh = .singleFlight → Guarded (s.run events).1 := by
  rw [(run_settings s events).2]
  exact fun single => run_guarded single (guarded single) events

theorem Solo.run {s : Session} (solo : Solo s) (guarded : s.refresh = .singleFlight → Guarded s)
    {events : List Event} (apart : Throughout Apart s events) : Solo (s.run events).1 := by
  induction events generalizing s with
  | nil => exact solo
  | cons event rest ih =>
    exact ih (solo.step guarded apart.1) (guarded_of_run guarded [event]) apart.2

/-- After every run of operations that do not overlap, one is under way at most. -/
theorem solo_of_run {scheme : Scheme} {refresh : Refresh} {host : String}
    {credentials : Credentials} {holds : Url → Bool} {events : List Event}
    (apart : Throughout Apart (opened scheme refresh host credentials holds) events) :
    let s := ((opened scheme refresh host credentials holds).run events).1
    Solo s ∧ (s.refresh = .singleFlight → Guarded s) := by
  have guarded := opened_guarded scheme refresh host credentials holds
  exact ⟨(Solo.opened _ _ _ _ _).run (fun _ => guarded) apart,
    guarded_of_run (fun _ => guarded) events⟩

/-- An operation that is by itself and finds no token at its first run logs in at once. -/
theorem Solo.logs_in {s : Session} (solo : Solo s)
    (guarded : s.refresh = .singleFlight → Guarded s) {id : TaskId} {goal : Goal}
    (fresh : s.task? id = some ⟨goal, .fresh⟩) (wants : goal.wantsToken = true)
    (uncached : s.cachedToken = none) {login : HttpRequest}
    (made : s.context.loginRequest s.scheme = .ok login) :
    (s.step (.poll id)).2 = [.sent id login] := by
  have found {event : Event} {s' : Session} {token : String} (poll : event = .poll id)
      (grant : Grant s id goal event s' token) : s.cachedToken = some token := by
    rcases grant.obtained with cached | ⟨_, _, answers, -⟩
    · exact cached
    · cases poll.symm.trans answers
  obtain ⟨after, advance, -⟩ := (step_move s (.poll id)).advance rfl fresh wants fun _ => nofun
  generalize (s.step (.poll id)).2 = shown at advance
  generalize same : Event.poll id = event at advance
  cases advance with
  | idle still => subst same; exact absurd rfl (still _ fresh).1
  | queued single _ taken =>
    rw [solo.gate_free (guarded single) fresh] at taken
    exact absurd rfl taken
  | logsIn entry request => cases made.symm.trans request; rfl
  | nowhere entry none_made => cases made.symm.trans none_made
  | sends grant _ => cases uncached.symm.trans (found same.symm grant)
  | unsent grant _ => cases uncached.symm.trans (found same.symm grant)
  | has grant _ => cases uncached.symm.trans (found same.symm grant)
  | dropped => cases same

/-! ## Without the gate -/

/-- A session that logs in without a gate, and is the same in all else. -/
def ungated (s : Session) : Session := { s with refresh := .concurrent, gate := {} }

/-- What is left of a step when the gate is taken away. -/
def withoutGate (moved : Moved) : Moved := (moved.1.ungated, moved.2)

theorem withToken_ungated (s : Session) (id : TaskId) (goal : Goal) (token : String) :
    s.ungated.withToken id goal token = withoutGate (s.withToken id goal token) := by
  rw [withToken_eq, withToken_eq]
  have own : s.ungated.ownRequest token goal = s.ownRequest token goal := by cases goal <;> rfl
  rw [own]
  cases s.ownRequest token goal with
  | none => rfl
  | some attempt => cases attempt <;> rfl

theorem startLogin_ungated (s : Session) (id : TaskId) (goal : Goal) :
    s.ungated.startLogin id goal = withoutGate (s.startLogin id goal) := by
  have same : s.ungated.context.loginRequest s.ungated.scheme =
      s.context.loginRequest s.scheme := rfl
  simp only [startLogin, same]
  cases s.context.loginRequest s.scheme <;> rfl

theorem answerLogin_ungated (s : Session) (id : TaskId) (goal : Goal)
    (answer : Except TransportError HttpResponse) :
    s.ungated.answerLogin id goal answer = withoutGate (s.answerLogin id goal answer) := by
  rw [answerLogin_eq, answerLogin_eq]
  cases loginResult answer with
  | error error => rfl
  | ok result =>
    cases goal with
    | login => rfl
    | _ => exact withToken_ungated (s.endLogin id (.ok result)) id _ result.csrfToken

/-- An operation that comes to a free gate without a token logs in, as it does without the gate. -/
theorem queue_ungated {s : Session} (free : s.gate = {}) (uncached : s.cachedToken = none)
    (id : TaskId) (goal : Goal) :
    s.ungated.startLogin id goal = withoutGate (s.queue id goal) := by
  have entered : (s.gate.enter id).owner = some id := by rw [free]; rfl
  have still : cachedToken { s with gate := s.gate.enter id } = none := uncached
  simp only [queue, entered, if_true, useCached, still]
  exact startLogin_ungated { s with gate := s.gate.enter id } id goal

/-- An operation that runs for the first time and finds the gate free does the same without it. -/
theorem begin_ungated {s : Session} (free : s.gate = {}) (id : TaskId) (goal : Goal) :
    s.ungated.begin id goal = withoutGate (s.begin id goal) := by
  have same : s.ungated.cachedToken = s.cachedToken := rfl
  have loose : s.ungated.refresh = .concurrent := rfl
  cases goal with
  | login => exact startLogin_ungated s id .login
  | send request => rfl
  | token | post path body | get path limit =>
    simp only [begin, same, loose]
    cases uncached : s.cachedToken with
    | some token => exact withToken_ungated s id _ token
    | none =>
      cases s.refresh with
      | concurrent => exact startLogin_ungated s id _
      | singleFlight => exact queue_ungated free uncached id _

/-- Operations that do not overlap do the same without the gate. -/
theorem step_ungated {s : Session} (solo : Solo s) (guarded : Guarded s) (event : Event) :
    s.ungated.step event = withoutGate (s.step event) := by
  have tasks (id : TaskId) : s.ungated.task? id = s.task? id := rfl
  cases event with
  | start id goal =>
    simp only [step, tasks]
    cases s.task? id <;> rfl
  | poll id =>
    simp only [step, tasks]
    cases here : s.task? id with
    | none => rfl
    | some task =>
      obtain ⟨goal, stage⟩ := task
      cases stage with
      | fresh => exact begin_ungated (solo.gate_free guarded here) id goal
      | queued => exact absurd here (solo.unqueued id goal)
      | loggingIn => rfl
      | sending => rfl
  | answer id answer =>
    simp only [step, tasks]
    cases s.task? id with
    | none => rfl
    | some task =>
      obtain ⟨goal, stage⟩ := task
      cases stage with
      | loggingIn => exact answerLogin_ungated s id goal answer
      | fresh => rfl
      | queued => rfl
      | sending => rfl
  | drop id =>
    simp only [step, tasks]
    cases s.task? id <;> rfl
  | redirected authority => rfl
  | cookies holds => rfl
  | setCredentials credentials => rfl

/-- Starts are as far apart without the gate as with it. -/
theorem apart_ungated {s : Session} {event : Event} : Apart s.ungated event ↔ Apart s event := by
  cases event <;> exact Iff.rfl

/-- A run of operations that do not overlap is the same without the gate. -/
theorem run_ungated {s : Session} (solo : Solo s) (single : s.refresh = .singleFlight)
    (guarded : Guarded s) {events : List Event} (apart : Throughout Apart s.ungated events) :
    Throughout Apart s events ∧ s.ungated.run events = withoutGate (s.run events) := by
  induction events generalizing s with
  | nil => exact ⟨trivial, rfl⟩
  | cons event rest ih =>
    obtain ⟨first, later⟩ := apart
    have first := apart_ungated.mp first
    have same := step_ungated solo guarded event
    have settled := (step_move s event).settings_eq.2.trans single
    rw [same] at later
    obtain ⟨apart, run⟩ := ih (solo.step (fun _ => guarded) first) settled
      (((step_move s event).passage single guarded).guarded guarded) later
    refine ⟨⟨first, apart⟩, ?_⟩
    simp only [Session.run, same]
    rw [show (withoutGate (s.step event)).1 = (s.step event).1.ungated from rfl, run]
    rfl

/-- As long as no operation is started while another is under way, a session that lets every
operation log in for itself and one that lets one log in for all cannot be told apart: at every
moment they have shown the same, requests as well as results, and agree in what they know and in
what they say they are doing. -/
theorem strategies_agree (scheme : Scheme) (host : String) (credentials : Credentials)
    (holds : Url → Bool) (events : List Event) :
    let each := opened scheme .concurrent host credentials holds
    let shared := opened scheme .singleFlight host credentials holds
    Throughout Apart each events →
      Throughout Apart shared events ∧ (each.run events).2 = (shared.run events).2 ∧
      ∀ before, before <+: events →
        let s := each.run before
        let t := shared.run before
        s.2 = t.2 ∧ s.1.context.host = t.1.context.host ∧ s.1.context.login = t.1.context.login ∧
          s.1.context.credentials = t.1.context.credentials ∧ s.1.state = t.1.state ∧
          s.1.tasks = t.1.tasks := by
  intro each shared apart
  have agree : ∀ before, before <+: events → Throughout Apart shared before ∧
      each.run before = withoutGate (shared.run before) := fun before first =>
    run_ungated (.opened _ _ _ _ _) rfl (opened_guarded _ _ _ _ _) (apart.front first)
  refine ⟨(agree events List.prefix_rfl).1, ?_, ?_⟩
  · rw [(agree events List.prefix_rfl).2]
    rfl
  · intro before first s t
    have same : s = withoutGate t := (agree before first).2
    rw [same]
    exact ⟨rfl, rfl, rfl, rfl, rfl, rfl⟩

/-- A login that is dropped, one that is refused, one that passes, and a call with its token, with
a redirect and a change of the credentials on the way. -/
theorem strategies_agree_dropped_login :
    let each := opened .https .concurrent "h" ⟨"u", "p"⟩ fun _ => false
    let shared := opened .https .singleFlight "h" ⟨"u", "p"⟩ fun _ => false
    let page (body : String) : Except TransportError HttpResponse :=
      .ok ⟨200, ⟨"https", "", "", some (.domain "h"), none, .segments [], none, none⟩, utf8 body⟩
    let events : List Event :=
      [.start 0 .token, .poll 0, .drop 0, .start 1 (.get "/x" 1), .poll 1,
        .setCredentials ⟨"v", "q"⟩, .answer 1 (page "<meta http-equiv='X-Auth' content='no'>"),
        .start 0 (.get "/x" 1), .poll 0, .redirected "g", .cookies fun _ => true,
        .answer 0 (page "<script>var csfrToken = 't';</script>"), .answer 0 (page ""),
        .start 2 .token, .poll 2]
    Throughout Apart each events ∧ (each.run events).2 = (shared.run events).2 ∧
      (each.run events).1.state = (shared.run events).1.state := by
  intro each shared page events
  have apart : Throughout Apart each events := by decide +kernel
  -- nothing further is to be computed of the run
  clear_value events
  obtain ⟨-, shown, moments⟩ :=
    strategies_agree .https "h" ⟨"u", "p"⟩ (fun _ => false) events apart
  obtain ⟨-, -, -, -, state, -⟩ := moments events List.prefix_rfl
  exact ⟨apart, shown, state⟩

end Session
end WlanAdmin
