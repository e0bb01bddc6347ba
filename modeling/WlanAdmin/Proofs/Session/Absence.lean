import WlanAdmin.Proofs.Session.Apart
import WlanAdmin.Proofs.Session.Gate
import WlanAdmin.Proofs.Session.State

/-!
# WlanAdmin.Proofs.Session.Absence

A session without one of its operations. Once an operation is dropped, events that concern it are as
nothing. And where it has completed no login, and nobody else has waited for the gate behind it, the
session is the one that never had it.

* `Sound` : what every run keeps, with the gate or without it.
* `Event.besides` : the events that do not concern an operation.
* `run_absent` : an operation that is gone does nothing.
* `aside`, `without` : a session without one of its operations.
* `step_without_other`, `step_without_own` : a step, and the operation taken away.
* `run_without` : a run, and the operation taken away.
-/

namespace WlanAdmin

/-- The events that do not concern an operation. -/
def Event.besides (id : TaskId) (events : List Event) : List Event :=
  events.filter fun event => event.task? ≠ some id

theorem Event.besides_own {id : TaskId} {event : Event} (own : event.task? = some id)
    (rest : List Event) : besides id (event :: rest) = besides id rest :=
  List.filter_cons_of_neg (by simpa using own)

theorem Event.besides_other {id : TaskId} {event : Event} (other : event.task? ≠ some id)
    (rest : List Event) : besides id (event :: rest) = event :: besides id rest :=
  List.filter_cons_of_pos (by simpa using other)

namespace Session

/-! ## What every run keeps -/

/-- The logins are counted, the gate is in order, and only operations that are there are at it. -/
structure Sound (s : Session) : Prop where
  counted : Counted s
  tidy : s.gate.Tidy
  present : ∀ id, s.gate.owner = some id ∨ id ∈ s.gate.waiting → s.AtGate id

theorem Guarded.tidy {s : Session} (h : Guarded s) : s.gate.Tidy :=
  ⟨fun id owns => (h.owner id owns).2, h.nodup, h.free⟩

/-- Where each operation logs in for itself, nobody comes to the gate. -/
theorem Move.gate_unused {s : Session} {event : Event} {moved : Moved} (move : Move s event moved)
    (each : s.refresh = .concurrent) (unused : s.gate = {}) : moved.1.gate = {} := by
  have leave (id : TaskId) : s.gate.leave id = {} := by rw [unused]; rfl
  cases move with
  | idle _ => exact unused
  | redirected => exact unused
  | cookies => exact unused
  | credentials => exact unused
  | started _ => exact unused
  | replaced _ => exact leave _
  | dropped _ => exact leave _
  | queued _ _ single _ _ => exact absurd (each.symm.trans single) nofun
  | @logsIn id goal s' entry =>
    obtain ⟨request, -, h⟩ | ⟨error, h⟩ := startLogin_cases s' id goal <;> rw [h] <;>
      cases entry with
      | entered _ _ single _ _ => exact absurd (each.symm.trans single) nofun
      | _ => first | exact unused | exact leave id
  | @granted id goal _ s' token grant =>
    obtain ⟨request, -, h⟩ | ⟨outcome, h⟩ := withToken_cases s' id goal token <;> rw [h] <;>
      cases grant <;> first | exact unused | exact leave id
  | passed _ => exact unused
  | loginDone _ _ => exact leave _
  | loginFailed _ _ => exact leave _
  | answered _ => exact unused

theorem run_gate_unused {s : Session} (each : s.refresh = .concurrent) (unused : s.gate = {})
    (events : List Event) : (s.run events).1.gate = {} := by
  have kept := run_invariant (P := fun s => s.refresh = .concurrent ∧ s.gate = {})
    (fun s event ⟨each, unused⟩ => ⟨(step_move s event).settings_eq.2.trans each,
      (step_move s event).gate_unused each unused⟩) ⟨each, unused⟩ events
  exact kept.2

theorem run_sound (scheme : Scheme) (refresh : Refresh) (host : String) (credentials : Credentials)
    (holds : Url → Bool) (events : List Event) :
    Sound ((opened scheme refresh host credentials holds).run events).1 := by
  have counted := run_counted (opened_counted scheme refresh host credentials holds) events
  cases refresh with
  | concurrent =>
    have unused : ((opened scheme .concurrent host credentials holds).run events).1.gate = {} :=
      run_gate_unused rfl rfl events
    refine ⟨counted, unused ▸ Gate.tidy_empty, fun id there => ?_⟩
    rw [unused] at there
    simp at there
  | singleFlight =>
    have guarded := run_guarded rfl (opened_guarded scheme _ host credentials holds) events
    refine ⟨counted, guarded.tidy, fun id there => ?_⟩
    rcases there with owns | waits
    · exact (guarded.owner id owns).1
    · exact .inr (guarded.waiting id waits)

/-! ## An operation that is gone -/

/-- Events that concern an operation that is gone are as nothing, and it shows nothing any more. -/
theorem run_absent {s : Session} {id : TaskId} (gone : s.task? id = none) {later : List Event}
    (once : ∀ goal, .start id goal ∉ later) :
    s.run later = s.run (Event.besides id later) ∧
      (∀ output ∈ (s.run later).2, output.task ≠ id) ∧ (s.run later).1.task? id = none := by
  induction later generalizing s with
  | nil => exact ⟨rfl, fun _ mem => absurd mem List.not_mem_nil, gone⟩
  | cons event rest ih =>
    have move := step_move s event
    have going (goal : Goal) : event ≠ .start id goal :=
      fun same => once goal (same ▸ List.mem_cons_self)
    have once_later (goal : Goal) : .start id goal ∉ rest :=
      fun mem => once goal (List.mem_cons_of_mem _ mem)
    by_cases concerned : event.task? = some id
    · have still := move.absent concerned gone going
      obtain ⟨same, quiet, away⟩ := ih gone once_later
      rw [Event.besides_own concerned]
      simp only [run, still, List.nil_append]
      exact ⟨same, quiet, away⟩
    · have stays := (move.others concerned).trans gone
      obtain ⟨same, quiet, away⟩ := ih stays once_later
      rw [Event.besides_other concerned]
      refine ⟨by simp only [run, same], fun output shown => ?_, away⟩
      rcases List.mem_append.mp shown with shown | shown
      · exact fun same => concerned (same ▸ move.shows shown)
      · exact quiet output shown

/-! ## Taking an operation away -/

/-- A session without an operation, of which so many logins are counted. -/
def aside (s : Session) (id : TaskId) (logins : Nat) : Session :=
  { s.eraseTask id with
    loginsInFlight := s.loginsInFlight - logins, gate := s.gate.leave id }

/-- What is left of a step when an operation is taken away. -/
def moveAside (id : TaskId) (logins : Nat) (moved : Moved) : Moved :=
  (moved.1.aside id logins, moved.2)

section Others

variable {s : Session} {id other : TaskId} {logins : Nat}

theorem filter_filter_comm (tasks : List (TaskId × Task)) (id other : TaskId) :
    (tasks.filter fun entry => entry.1 ≠ id).filter (fun entry => entry.1 ≠ other) =
      (tasks.filter fun entry => entry.1 ≠ other).filter fun entry => entry.1 ≠ id := by
  simp only [List.filter_filter]
  exact List.filter_congr fun _ _ => Bool.and_comm _ _

theorem eraseTask_aside :
    (s.aside id logins).eraseTask other = (s.eraseTask other).aside id logins := by
  simp only [eraseTask, aside, filter_filter_comm s.tasks id other]

theorem setTask_aside (ne : other ≠ id) (task : Task) :
    (s.aside id logins).setTask other task = (s.setTask other task).aside id logins := by
  have kept : (List.filter (fun entry => entry.1 ≠ id)
      ((other, task) :: s.tasks.filter fun entry => entry.1 ≠ other)) = (other, task) ::
        (s.tasks.filter fun entry => entry.1 ≠ other).filter fun entry => entry.1 ≠ id :=
    List.filter_cons_of_pos (by simpa using ne)
  simp only [setTask, eraseTask, aside, filter_filter_comm s.tasks id other, kept]

theorem finish_aside (outcome : Outcome) :
    (s.aside id logins).finish other outcome = moveAside id logins (s.finish other outcome) := by
  simp only [finish, moveAside, eraseTask_aside]

theorem withToken_aside (ne : other ≠ id) (goal : Goal) (token : String) :
    (s.aside id logins).withToken other goal token =
      moveAside id logins (s.withToken other goal token) := by
  have own : (s.aside id logins).ownRequest token goal = s.ownRequest token goal := by
    cases goal <;> rfl
  rw [withToken_eq, withToken_eq, own]
  cases s.ownRequest token goal with
  | none => exact finish_aside _
  | some attempt =>
    cases attempt with
    | error error => exact finish_aside _
    | ok request => simp only [moveAside, setTask_aside ne]

/-- Another operation leaves the gate. -/
theorem leave_aside (tidy : s.gate.Tidy) (ne : other ≠ id) :
    { s.aside id logins with gate := (s.aside id logins).gate.leave other } =
      { s with gate := s.gate.leave other }.aside id logins := by
  simp only [aside, tidy.leave_comm ne]
  rfl

theorem startLogin_aside (tidy : s.gate.Tidy) (ne : other ≠ id)
    (counted : logins ≤ s.loginsInFlight) (goal : Goal) :
    (s.aside id logins).startLogin other goal =
      moveAside id logins (s.startLogin other goal) := by
  have same : (s.aside id logins).context.loginRequest (s.aside id logins).scheme =
      s.context.loginRequest s.scheme := rfl
  simp only [startLogin, same]
  cases s.context.loginRequest s.scheme with
  | ok request =>
    have count : s.loginsInFlight - logins + 1 = s.loginsInFlight + 1 - logins := by omega
    simp only [setTask_aside ne, moveAside]
    simp only [aside, eraseTask, count]
  | error error =>
    rw [leave_aside tidy ne]
    exact finish_aside _

theorem useCached_aside (tidy : s.gate.Tidy) (ne : other ≠ id)
    (counted : logins ≤ s.loginsInFlight) (goal : Goal) :
    (s.aside id logins).useCached other goal = moveAside id logins (s.useCached other goal) := by
  have same : (s.aside id logins).cachedToken = s.cachedToken := rfl
  simp only [useCached, same]
  cases s.cachedToken with
  | some token =>
    rw [leave_aside tidy ne]
    exact withToken_aside ne goal token
  | none => exact startLogin_aside tidy ne counted goal

/-- Nobody waits behind an operation. -/
def Alone (s : Session) (id : TaskId) : Prop := s.gate.owner = some id → s.gate.waiting = []

/-- The gate is handed to another just as it is without an operation that nobody waits behind. -/
theorem owner_leave_iff (alone : s.Alone id) (ne : other ≠ id) :
    (s.gate.leave id).owner = some other ↔ s.gate.owner = some other := by
  by_cases owns : s.gate.owner = some id
  · simp [Gate.leave_of_owner owns, owns, alone owns, ne.symm]
  · rw [Gate.leave_of_other owns]

/-- Another operation comes to the gate, and not to wait behind this one. -/
theorem queue_aside (tidy : s.gate.Tidy) (ne : other ≠ id) (counted : logins ≤ s.loginsInFlight)
    (apart : s.gate.owner ≠ some other) (away : other ∉ s.gate.waiting) (goal : Goal)
    (alone : (s.queue other goal).1.Alone id) :
    (s.aside id logins).queue other goal = moveAside id logins (s.queue other goal) := by
  have owned : s.gate.owner ≠ some id := by
    intro owns
    have waits : (s.queue other goal).1.gate = ⟨some id, s.gate.waiting ++ [other]⟩ := by
      simp [queue, Gate.enter, owns, ne.symm, setTask]
    have none_wait := alone (by rw [waits])
    rw [waits] at none_wait
    exact absurd none_wait (by simp)
  have entered : { s.aside id logins with gate := (s.aside id logins).gate.enter other } =
      { s with gate := s.gate.enter other }.aside id logins := by
    simp only [aside, tidy.enter_leave_comm ne owned]
    rfl
  have stays : ((s.aside id logins).gate.enter other).owner = (s.gate.enter other).owner := by
    have still : (s.gate.enter other).owner ≠ some id := by
      unfold Gate.enter
      split
      · exact fun same => ne (Option.some.inj same)
      · exact owned
    change ((s.gate.leave id).enter other).owner = _
    rw [tidy.enter_leave_comm ne owned, Gate.leave_of_other still]
  simp only [queue, entered, stays]
  by_cases owns : (s.gate.enter other).owner = some other
  · simp only [owns, if_true]
    exact useCached_aside (s := { s with gate := s.gate.enter other })
      (tidy.enter apart away) ne counted goal
  · simp only [owns, if_false, setTask_aside ne, moveAside]

theorem begin_aside (tidy : s.gate.Tidy) (ne : other ≠ id) (counted : logins ≤ s.loginsInFlight)
    (apart : s.gate.owner ≠ some other) (away : other ∉ s.gate.waiting) (goal : Goal)
    (alone : (s.begin other goal).1.Alone id) :
    (s.aside id logins).begin other goal = moveAside id logins (s.begin other goal) := by
  have token : (s.aside id logins).cachedToken = s.cachedToken := rfl
  have refresh : (s.aside id logins).refresh = s.refresh := rfl
  cases goal with
  | login => exact startLogin_aside tidy ne counted .login
  | send request => exact withToken_aside ne (.send request) ""
  | token | post path body | get path limit =>
    simp only [begin, token, refresh] at alone ⊢
    cases cached : s.cachedToken with
    | some token => exact withToken_aside ne _ token
    | none =>
      rw [cached] at alone
      cases strategy : s.refresh with
      | concurrent => exact startLogin_aside tidy ne counted _
      | singleFlight =>
        rw [strategy] at alone
        exact queue_aside tidy ne counted apart away _ alone

theorem answerLogin_aside (tidy : s.gate.Tidy) (ne : other ≠ id) (goal : Goal)
    (answer : Except TransportError HttpResponse) :
    (s.aside id logins).answerLogin other goal answer =
      moveAside id logins (s.answerLogin other goal answer) := by
  have ended (result : Except SessionError LoginResult) :
      (s.aside id logins).endLogin other result = (s.endLogin other result).aside id logins := by
    have count : s.loginsInFlight - logins - 1 = s.loginsInFlight - 1 - logins := by omega
    simp only [endLogin, aside, tidy.leave_comm ne, count]
    rfl
  rw [answerLogin_eq, answerLogin_eq]
  simp only [ended]
  cases loginResult answer with
  | error error => exact finish_aside _
  | ok result =>
    cases goal with
    | login => exact finish_aside _
    | _ => exact withToken_aside ne _ result.csrfToken

theorem drop_aside (tidy : s.gate.Tidy) (ne : other ≠ id) (task : Task) :
    (s.aside id logins).drop other task = (s.drop other task).aside id logins := by
  have count : (if task.stage = .loggingIn then s.loginsInFlight - logins - 1
      else s.loginsInFlight - logins) =
      (if task.stage = .loggingIn then s.loginsInFlight - 1 else s.loginsInFlight) - logins := by
    split <;> omega
  simp only [drop, aside, eraseTask, tidy.leave_comm ne, filter_filter_comm s.tasks id other, count]

end Others

/-! ## Never having had it -/

/-- How many of the counted logins are those of an operation. -/
def share (s : Session) (id : TaskId) : Nat :=
  if (s.task? id).map Task.stage = some .loggingIn then 1 else 0

/-- A session without an operation. -/
def without (s : Session) (id : TaskId) : Session := s.aside id (s.share id)

theorem share_congr {s s' : Session} {id : TaskId} (same : s'.task? id = s.task? id) :
    s'.share id = s.share id := by
  rw [share, same, share]

theorem share_outside {s : Session} {id : TaskId} (outside : ¬ s.Inside id) : s.share id = 0 := by
  refine if_neg fun inside => outside ?_
  obtain ⟨⟨goal, stage⟩, here, inside⟩ := Option.map_eq_some_iff.mp inside
  cases inside
  exact ⟨goal, here⟩

theorem share_of_stage {s : Session} {id : TaskId} {goal : Goal} {stage : Stage}
    (here : s.task? id = some ⟨goal, stage⟩) (away : stage ≠ .loggingIn) : s.share id = 0 :=
  share_outside (not_inside_of_stage here away)

theorem share_gone {s : Session} {id : TaskId} (gone : s.task? id = none) : s.share id = 0 :=
  share_outside (not_inside_of_none gone)

theorem share_inside {s : Session} {id : TaskId} {goal : Goal}
    (here : s.task? id = some ⟨goal, .loggingIn⟩) : s.share id = 1 := by
  simp [share, here]

theorem share_le {s : Session} (counted : Counted s) (id : TaskId) :
    s.share id ≤ s.loginsInFlight := by
  by_cases inside : s.Inside id
  · have mem : id ∈ s.insiders := (counted.mem_insiders id).mpr inside
    obtain ⟨goal, here⟩ := inside
    rw [share_inside here, counted.count]
    exact List.length_pos_of_mem mem
  · simp [share_outside inside]

/-- Whatever concerns other operations does the same without this one, as long as none of them waits
behind it. -/
theorem step_without_other {s : Session} {id : TaskId} {event : Event} (sound : Sound s)
    (other : event.task? ≠ some id) (before : s.Alone id) (after : (s.step event).1.Alone id) :
    (s.without id).step event = ((s.step event).1.without id, (s.step event).2) := by
  have unchanged := share_congr ((step_move s event).others other)
  have counted := share_le sound.counted id
  suffices (s.without id).step event = moveAside id (s.share id) (s.step event) by
    rw [this, moveAside, without, unchanged]
  have lookup {key : TaskId} (ne : key ≠ id) : (s.without id).task? key = s.task? key :=
    task?_eraseTask_of_ne s id key ne
  have tidy := sound.tidy
  unfold without at *
  cases event with
  | start key goal =>
    have ne : key ≠ id := fun same => other (same ▸ rfl)
    simp only [step, lookup ne]
    cases s.task? key with
    | none => simp only [setTask_aside ne, moveAside]
    | some task => simp only [drop_aside tidy ne, setTask_aside ne, moveAside]
  | poll key =>
    have ne : key ≠ id := fun same => other (same ▸ rfl)
    simp only [step, lookup ne]
    cases here : s.task? key with
    | none => rfl
    | some task =>
      obtain ⟨goal, stage⟩ := task
      simp only [step, here] at after
      cases stage with
      | fresh =>
        have away : ¬ s.AtGate key := not_atGate_of_fresh here
        exact begin_aside tidy ne counted (fun owns => away (sound.present key (.inl owns)))
          (fun waits => away (sound.present key (.inr waits))) goal after
      | queued =>
        have handed : (s.aside id (s.share id)).gate.owner = some key ↔
            s.gate.owner = some key := owner_leave_iff before ne
        simp only [poll, handed]
        split
        · exact useCached_aside tidy ne counted goal
        · rfl
      | loggingIn => rfl
      | sending => rfl
  | answer key result =>
    have ne : key ≠ id := fun same => other (same ▸ rfl)
    simp only [step, lookup ne]
    cases s.task? key with
    | none => rfl
    | some task =>
      obtain ⟨goal, stage⟩ := task
      cases stage with
      | loggingIn => exact answerLogin_aside tidy ne goal result
      | sending => exact finish_aside _
      | fresh => rfl
      | queued => rfl
  | drop key =>
    have ne : key ≠ id := fun same => other (same ▸ rfl)
    simp only [step, lookup ne]
    cases s.task? key with
    | none => rfl
    | some task => simp only [drop_aside tidy ne, moveAside]
  | redirected authority => rfl
  | cookies holds => rfl
  | setCredentials credentials => rfl

/-- What a session knows and is opened with, without its operations. -/
def ground (s : Session) : Scheme × Refresh × Context × (Url → Bool) :=
  (s.scheme, s.refresh, s.context, s.holds)

theorem without_congr {s s' : Session} {id : TaskId} (ground : s'.ground = s.ground)
    (tasks : (s'.eraseTask id).tasks = (s.eraseTask id).tasks)
    (count : s'.loginsInFlight - s'.share id = s.loginsInFlight - s.share id)
    (gate : s'.gate.leave id = s.gate.leave id) : s'.without id = s.without id := by
  simp only [Session.ground, Prod.mk.injEq] at ground
  obtain ⟨scheme, refresh, context, holds⟩ := ground
  simp only [eraseTask] at tasks
  simp only [without, aside, eraseTask, scheme, refresh, context, holds, tasks, count, gate]

/-- An operation that is over, or goes on outside of a login. -/
theorem without_outside {s s' : Session} {id : TaskId} (ground : s'.ground = s.ground)
    (tasks : s'.tasks = (s.eraseTask id).tasks ∨
      ∃ task, task.stage ≠ .loggingIn ∧ s'.tasks = (s.setTask id task).tasks)
    (count : s'.loginsInFlight = s.loginsInFlight - s.share id)
    (gate : s'.gate.leave id = s.gate.leave id) : s'.without id = s.without id := by
  have erased : (s'.eraseTask id).tasks = (s.eraseTask id).tasks := by
    rcases tasks with tasks | ⟨task, -, tasks⟩ <;>
      simp [eraseTask, tasks, setTask, List.filter_filter]
  refine without_congr ground erased ?_ gate
  suffices s'.share id = 0 by rw [this, count, Nat.sub_zero]
  rcases tasks with tasks | ⟨⟨goal, stage⟩, away, tasks⟩
  · refine share_gone ?_
    rw [task?, tasks]
    exact (task?_eraseTask s id id).trans (if_pos rfl)
  · have here : s'.task? id = some ⟨goal, stage⟩ := by
      rw [task?, tasks]
      exact (task?_setTask s id id _).trans (if_pos rfl)
    exact share_of_stage here away

/-- An operation that begins a login. -/
theorem without_inside {s s' : Session} {id : TaskId} (goal : Goal) (ground : s'.ground = s.ground)
    (tasks : s'.tasks = (s.setTask id ⟨goal, .loggingIn⟩).tasks) (outside : s.share id = 0)
    (count : s'.loginsInFlight = s.loginsInFlight + 1)
    (gate : s'.gate.leave id = s.gate.leave id) : s'.without id = s.without id := by
  have here : s'.task? id = some ⟨goal, .loggingIn⟩ := by
    rw [task?, tasks]
    exact (task?_setTask s id id _).trans (if_pos rfl)
  refine without_congr ground ?_ ?_ gate
  · simp [eraseTask, tasks, setTask, List.filter_filter]
  · rw [share_inside here, outside, count, Nat.sub_zero, Nat.add_sub_cancel]

theorem count_drop {s : Session} {id : TaskId} {task : Task} (here : s.task? id = some task) :
    (s.drop id task).loginsInFlight = s.loginsInFlight - s.share id := by
  obtain ⟨goal, stage⟩ := task
  by_cases inside : stage = .loggingIn
  · subst inside
    rw [share_inside here]
    rfl
  · rw [share_of_stage here inside]
    exact if_neg inside

/-- Where there is no operation, none is taken away. -/
theorem without_of_gone {s : Session} (sound : Sound s) {id : TaskId} (gone : s.task? id = none) :
    s.without id = s := by
  have away : ¬ s.AtGate id := not_atGate_of_none gone
  have gate : s.gate.leave id = s.gate := Gate.leave_of_away
    (fun owns => away (sound.present id (.inl owns)))
    (fun waits => away (sound.present id (.inr waits)))
  have tasks : (s.tasks.filter fun entry => entry.1 ≠ id) = s.tasks := by
    refine List.filter_eq_self.mpr fun ⟨key, task⟩ mem => decide_eq_true fun same : key = id => ?_
    have there := (lookup_eq_some_iff sound.counted.once).mpr mem
    cases gone.symm.trans (same ▸ there)
  simp only [without, aside, share_gone gone, Nat.sub_zero, gate, eraseTask, tasks]

/-- A dropped operation is taken away. -/
theorem step_drop_eq_without {s : Session} (sound : Sound s) (id : TaskId) :
    (s.step (.drop id)).1 = s.without id := by
  cases here : s.task? id with
  | none =>
    rw [without_of_gone sound here]
    simp only [step, here]
  | some task =>
    simp only [step, here, without, aside, ← count_drop here]
    rfl

/-- An operation comes to log in with what the session knew, and at the gate only its own place has
changed. -/
theorem Entry.comes {s s' : Session} {id : TaskId} {goal : Goal} (entry : Entry s id goal s')
    (sound : Sound s) : s'.ground = s.ground ∧ s'.tasks = s.tasks ∧
      s'.loginsInFlight = s.loginsInFlight ∧ s'.gate.leave id = s.gate.leave id := by
  cases entry with
  | entered fresh _ _ _ _ =>
    have away : ¬ s.AtGate id := not_atGate_of_fresh fresh
    exact ⟨rfl, rfl, rfl, sound.tidy.enter_leave fun owns => away (sound.present id (.inl owns))⟩
  | _ => exact ⟨rfl, rfl, rfl, rfl⟩

/-- What an operation itself does is not seen without it, unless a login of its own succeeds. -/
theorem step_without_own {s : Session} {id : TaskId} {event : Event} (sound : Sound s)
    (own : event.task? = some id) (none_gained : s.gains event = none) :
    (s.step event).1.without id = s.without id := by
  have move := step_move s event
  have twice := sound.tidy.leave_leave id
  generalize s.step event = moved at move
  cases move with
  | idle _ => rfl
  | redirected => cases own
  | cookies => cases own
  | credentials => cases own
  | @started _ goal gone =>
    cases own
    exact without_outside rfl (.inr ⟨⟨goal, .fresh⟩, by simp, rfl⟩) (by rw [share_gone gone]; rfl) rfl
  | @replaced _ goal _ here =>
    cases own
    refine without_outside rfl (.inr ⟨⟨goal, .fresh⟩, by simp, ?_⟩) (count_drop here) twice
    simp [setTask, eraseTask, drop, List.filter_filter]
  | dropped here =>
    cases own
    exact without_outside rfl (.inl rfl) (count_drop here) twice
  | @queued _ goal fresh _ _ _ _ =>
    cases own
    have away : ¬ s.AtGate id := not_atGate_of_fresh fresh
    refine without_outside rfl (.inr ⟨⟨goal, .queued⟩, by simp, rfl⟩) ?_ ?_
    · rw [share_of_stage fresh (by decide)]
      rfl
    · exact sound.tidy.enter_leave fun owns => away (sound.present id (.inl owns))
  | @logsIn _ goal s' entry =>
    cases own
    obtain ⟨ground, tasks, count, gate⟩ := entry.comes sound
    have outside := share_outside entry.not_inside
    obtain ⟨request, -, shown⟩ | ⟨error, shown⟩ := startLogin_cases s' id goal <;> rw [shown]
    · refine without_inside goal ground ?_ outside (congrArg (· + 1) count) gate
      simp only [setTask, eraseTask, tasks]
    · refine without_outside ground (.inl ?_) (by rw [outside]; exact count) ?_
      · simp only [finish, eraseTask, tasks]
      · exact (congrArg (·.leave id) gate).trans twice
  | @granted _ goal _ s' token grant =>
    cases grant.concerns.symm.trans own
    have gone : s'.ground = s.ground ∧ s'.tasks = s.tasks ∧
        s'.loginsInFlight = s.loginsInFlight - s.share id ∧
        s'.gate.leave id = s.gate.leave id := by
      cases grant with
      | cached here _ _ => exact ⟨rfl, rfl, by rw [share_of_stage here (by decide)]; rfl, rfl⟩
      | handed here _ _ => exact ⟨rfl, rfl, by rw [share_of_stage here (by decide)]; rfl, twice⟩
      | loggedIn here _ read =>
        simp only [gains, here, read] at none_gained
        cases none_gained
    obtain ⟨ground, tasks, count, gate⟩ := gone
    obtain ⟨request, -, shown⟩ | ⟨outcome, shown⟩ := withToken_cases s' id goal token <;> rw [shown]
    · refine without_outside ground (.inr ⟨⟨goal, .sending⟩, by simp, ?_⟩) count gate
      simp only [setTask, eraseTask, tasks]
    · refine without_outside ground (.inl ?_) count gate
      simp only [finish, eraseTask, tasks]
  | @passed _ request fresh =>
    cases own
    exact without_outside rfl (.inr ⟨⟨.send request, .sending⟩, by simp, rfl⟩)
      (by rw [share_of_stage fresh (by decide)]; rfl) rfl
  | loginDone here read =>
    cases own
    simp only [gains, here, read] at none_gained
    cases none_gained
  | loginFailed here _ =>
    cases own
    exact without_outside rfl (.inl rfl) (by rw [share_inside here]; rfl) twice
  | answered here =>
    cases own
    exact without_outside rfl (.inl rfl) (by rw [share_of_stage here (by decide)]; rfl) rfl

/-- With an event an operation stores no login, and afterwards nobody waits behind it. -/
def Unnoticed (id : TaskId) (s : Session) (event : Event) : Prop :=
  (event.task? = some id → s.gains event = none) ∧ (s.step event).1.Alone id

theorem step_without {s : Session} {id : TaskId} {event : Event} (sound : Sound s)
    (before : s.Alone id) (unnoticed : Unnoticed id s event) (rest : List Event) :
    (s.without id).run (Event.besides id (event :: rest)) =
      let later := ((s.step event).1.without id).run (Event.besides id rest)
      (later.1, (s.step event).2.filter (fun output => output.task ≠ id) ++ later.2) := by
  have move := step_move s event
  by_cases own : event.task? = some id
  · have silent : (s.step event).2.filter (fun output => output.task ≠ id) = [] := by
      refine List.filter_eq_nil_iff.mpr fun output shown => ?_
      simpa using (Option.some.inj ((move.shows shown).symm.trans own))
    rw [Event.besides_own own, step_without_own sound own (unnoticed.1 own), silent]
    rfl
  · have shown : (s.step event).2.filter (fun output => output.task ≠ id) = (s.step event).2 := by
      refine List.filter_eq_self.mpr fun output shown => decide_eq_true fun same => own ?_
      rw [move.shows shown, same]
    rw [Event.besides_other own, shown]
    simp only [run, step_without_other sound own before unnoticed.2]

/-- As long as an operation stores no login and nobody waits behind it, the session without it is
the session that never had it, and the others show the same. -/
theorem run_without {start : Session} (id : TaskId) (earlier : List Event) {events : List Event}
    (sound : ∀ before, Sound (start.run before).1) (before : (start.run earlier).1.Alone id)
    (unnoticed : Throughout (Unnoticed id) (start.run earlier).1 events) :
    ((start.run earlier).1.without id).run (Event.besides id events) =
      (((start.run earlier).1.run events).1.without id,
        ((start.run earlier).1.run events).2.filter fun output => output.task ≠ id) := by
  induction events generalizing earlier with
  | nil => rfl
  | cons event rest ih =>
    have next : (start.run (earlier ++ [event])).1 = ((start.run earlier).1.step event).1 :=
      run_append start earlier [event]
    have later := ih (earlier ++ [event]) (next ▸ unnoticed.1.2) (next ▸ unnoticed.2)
    rw [next] at later
    rw [step_without (sound earlier) before unnoticed.1, later]
    simp only [run, List.filter_append]

end Session
end WlanAdmin
