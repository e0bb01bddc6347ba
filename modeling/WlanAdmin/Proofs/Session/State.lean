import WlanAdmin.Proofs.Session.Requests

/-!
# WlanAdmin.Proofs.Session.State

What a session says it is doing, from what has happened to it. The count of logins is that of the
operations that have begun one and not come to its end, whichever end that is: its page, a refusal,
a failure on the way, or that the operation is dropped.

* `Begins`, `Event.Ends` : the events with which a login begins and ends.
* `Outstanding` : a login of a run that has begun and not ended.
* `Move.inside_iff`, `run_inside_iff` : the operations inside a login are those with an outstanding
  one.
* `Counted`, `Move.counted` : the invariant of the count.
* `run_state` : the state after every run.
-/

namespace WlanAdmin

/-- The events with which a login of an operation is over: its answer, or the end of the operation,
also where another takes its place. -/
def Event.Ends (event : Event) (id : TaskId) : Prop :=
  match event with
  | .start other _ | .answer other _ | .drop other => other = id
  | .poll _ | .redirected _ | .cookies _ | .setCredentials _ => False

namespace Session

/-- An operation that runs now comes to log in, and there is a URL to log in at. Where there is
none, the login is over as soon as it has begun. -/
def Begins (s : Session) (id : TaskId) : Prop :=
  ∃ goal s' request, Entry s id goal s' ∧ s.context.loginRequest s.scheme = .ok request

/-- A login that an operation has begun in a run, and that is not over. -/
def Outstanding (s : Session) (events : List Event) (id : TaskId) : Prop :=
  ∃ before after, events = before ++ .poll id :: after ∧ (s.run before).1.Begins id ∧
    ∀ event ∈ after, ¬ event.Ends id

/-- An operation whose login is on its way. -/
def Inside (s : Session) (id : TaskId) : Prop := ∃ goal, s.task? id = some ⟨goal, .loggingIn⟩

theorem not_inside_of_none {s : Session} {id : TaskId} (h : s.task? id = none) : ¬ s.Inside id := by
  rintro ⟨goal, here⟩
  rw [h] at here
  cases here

theorem not_inside_of_stage {s : Session} {id : TaskId} {goal : Goal} {stage : Stage}
    (h : s.task? id = some ⟨goal, stage⟩) (away : stage ≠ .loggingIn) : ¬ s.Inside id := by
  rintro ⟨other, here⟩
  rw [h] at here
  cases here
  exact away rfl

theorem inside_congr {s s' : Session} {id : TaskId} (h : s'.task? id = s.task? id) :
    s'.Inside id ↔ s.Inside id := by
  simp only [Inside, h]

theorem eraseTask_not_inside (s : Session) (id : TaskId) : ¬ (s.eraseTask id).Inside id :=
  not_inside_of_none ((task?_eraseTask s id id).trans (if_pos rfl))

theorem setTask_not_inside (s : Session) (id : TaskId) (goal : Goal) {stage : Stage}
    (away : stage ≠ .loggingIn) : ¬ (s.setTask id ⟨goal, stage⟩).Inside id :=
  not_inside_of_stage ((task?_setTask s id id _).trans (if_pos rfl)) away

theorem Entry.not_inside {s s' : Session} {id : TaskId} {goal : Goal} (entry : Entry s id goal s') :
    ¬ s.Inside id := by
  cases entry with
  | login h => exact not_inside_of_stage h nofun
  | stale h _ _ _ => exact not_inside_of_stage h nofun
  | entered h _ _ _ _ => exact not_inside_of_stage h nofun
  | handed h _ _ => exact not_inside_of_stage h nofun

theorem withToken_not_inside (s : Session) (id : TaskId) (goal : Goal) (token : String) :
    ¬ (s.withToken id goal token).1.Inside id := by
  obtain ⟨request, -, h⟩ | ⟨outcome, h⟩ := withToken_cases s id goal token <;> rw [h]
  · exact setTask_not_inside s id goal nofun
  · exact eraseTask_not_inside s id

/-! ## Beginning and ending -/

/-- Nothing ends a login that goes on, and no event but a poll begins one. -/
theorem not_inside_of_ends {s : Session} {event : Event} {moved : Moved} (move : Move s event moved)
    {id : TaskId} (ends : event.Ends id) : ¬ moved.1.Inside id := by
  cases move with
  | @idle event h =>
    cases event with
    | answer other answer =>
      cases ends
      rintro ⟨goal, here⟩
      exact (h _ here).1 rfl
    | drop other => cases ends; exact not_inside_of_none h
    | start other goal => exact h.elim
    | _ => exact ends.elim
  | started _ => cases ends; exact setTask_not_inside s _ _ nofun
  | replaced _ => cases ends; exact setTask_not_inside _ _ _ nofun
  | dropped _ => cases ends; exact eraseTask_not_inside s _
  | granted grant =>
    cases grant with
    | loggedIn _ _ _ => cases ends; exact withToken_not_inside _ _ _ _
    | _ => exact ends.elim
  | loginDone _ _ => cases ends; exact eraseTask_not_inside _ _
  | loginFailed _ _ => cases ends; exact eraseTask_not_inside _ _
  | answered _ => cases ends; exact eraseTask_not_inside _ _
  | _ => exact ends.elim

/-- An operation that comes to log in does so when it runs. -/
theorem Entry.step_eq {s s' : Session} {id : TaskId} {goal : Goal} (entry : Entry s id goal s') :
    s.step (.poll id) = s'.startLogin id goal := by
  cases entry with
  | login here => simp only [step, here, poll, begin]
  | handed here owns uncached => simp only [step, here, poll, if_pos owns, useCached, uncached]
  | stale here wants single uncached =>
    simp only [step, here, poll]
    cases goal with
    | login => cases wants
    | send request => cases wants
    | token | post path body | get path limit => simp only [begin, uncached, single]
  | entered here wants single uncached owns =>
    have still : cachedToken { s with gate := s.gate.enter id } = none := uncached
    have comes : s.begin id goal = s.queue id goal := by
      cases goal with
      | login => cases wants
      | send request => cases wants
      | token | post path body | get path limit => simp only [begin, uncached, single]
    simp only [step, here, poll, comes, queue, if_pos owns, useCached, still]

theorem Entry.loginRequest_eq {s s' : Session} {id : TaskId} {goal : Goal}
    (entry : Entry s id goal s') :
    s'.context.loginRequest s'.scheme = s.context.loginRequest s.scheme := by
  cases entry <;> rfl

/-- An operation that runs is inside a login afterwards exactly if it was before, or begins one. -/
theorem inside_poll (s : Session) (id : TaskId) :
    (s.step (.poll id)).1.Inside id ↔ s.Begins id ∨ s.Inside id := by
  constructor
  · intro inside
    have move := step_move s (.poll id)
    generalize s.step (.poll id) = moved at move inside
    cases move with
    | idle _ => exact .inr inside
    | queued _ _ _ _ _ => exact absurd inside (setTask_not_inside _ id _ nofun)
    | granted grant => cases grant <;> exact absurd inside (withToken_not_inside _ id _ _)
    | passed _ => exact absurd inside (setTask_not_inside s id _ nofun)
    | @logsIn _ goal s' entry =>
      cases made : s.context.loginRequest s.scheme with
      | ok request => exact .inl ⟨goal, s', request, entry, made⟩
      | error error =>
        simp only [startLogin, entry.loginRequest_eq, made] at inside
        exact absurd inside (eraseTask_not_inside _ id)
  · rintro (⟨goal, s', request, entry, made⟩ | ⟨goal, here⟩)
    · refine ⟨goal, ?_⟩
      rw [entry.step_eq]
      simp only [startLogin, entry.loginRequest_eq, made]
      exact (task?_setTask s' id id _).trans (if_pos rfl)
    · refine ⟨goal, ?_⟩
      simp only [step, here, poll]

/-- An operation is inside a login after an event if it begins one with it, or was inside one that
the event does not end. -/
theorem inside_step (s : Session) (event : Event) (id : TaskId) :
    (s.step event).1.Inside id ↔
      (event = .poll id ∧ s.Begins id) ∨ (s.Inside id ∧ ¬ event.Ends id) := by
  by_cases polled : event = .poll id
  · subst polled
    rw [inside_poll]
    simp [Event.Ends]
  · have move := step_move s event
    by_cases ends : event.Ends id
    · simpa [polled, ends] using not_inside_of_ends move ends
    · simp only [polled, false_and, false_or, ends, not_false_eq_true, and_true]
      refine inside_congr (move.others fun concerned => ?_)
      cases event with
      | poll other => exact polled (congrArg Event.poll (Option.some.inj concerned))
      | start other goal => exact ends (Option.some.inj concerned)
      | answer other answer => exact ends (Option.some.inj concerned)
      | drop other => exact ends (Option.some.inj concerned)
      | _ => cases concerned

theorem outstanding_cons (s : Session) (event : Event) (rest : List Event) (id : TaskId) :
    s.Outstanding (event :: rest) id ↔
      (event = .poll id ∧ s.Begins id ∧ ∀ later ∈ rest, ¬ later.Ends id) ∨
        (s.step event).1.Outstanding rest id := by
  constructor
  · rintro ⟨before, after, split, begins, goes⟩
    cases before with
    | nil =>
      cases split
      exact .inl ⟨rfl, begins, goes⟩
    | cons first before =>
      cases split
      exact .inr ⟨before, after, rfl, begins, goes⟩
  · rintro (⟨rfl, begins, goes⟩ | ⟨before, after, rfl, begins, goes⟩)
    · exact ⟨[], rest, rfl, begins, goes⟩
    · exact ⟨event :: before, after, rfl, begins, goes⟩

/-- The operations inside a login after a run are those that have begun one in it, or were inside
one before, and have not ended it. -/
theorem run_inside_iff (s : Session) (events : List Event) (id : TaskId) :
    (s.run events).1.Inside id ↔
      s.Outstanding events id ∨ (s.Inside id ∧ ∀ event ∈ events, ¬ event.Ends id) := by
  induction events generalizing s with
  | nil =>
    have none_begun : ¬ s.Outstanding [] id := by
      rintro ⟨before, after, split, -⟩
      exact absurd split (by simp)
    simp [none_begun, run]
  | cons event rest ih =>
    have later : (s.run (event :: rest)).1 = ((s.step event).1.run rest).1 := rfl
    rw [later, ih, outstanding_cons, inside_step, List.forall_mem_cons,
      or_and_right, and_assoc, and_assoc]
    exact or_left_comm.trans or_assoc.symm

/-- In a session that has just been opened nobody is inside a login. -/
theorem opened_inside_iff (scheme : Scheme) (refresh : Refresh) (host : String)
    (credentials : Credentials) (holds : Url → Bool) (events : List Event) (id : TaskId) :
    let start := opened scheme refresh host credentials holds
    (start.run events).1.Inside id ↔ start.Outstanding events id := by
  intro start
  have outside : ¬ start.Inside id := not_inside_of_none rfl
  rw [run_inside_iff, or_iff_left fun inside => outside inside.1]

/-! ## Counting -/

/-- The operations inside a login. -/
def insiders (s : Session) : List TaskId :=
  (s.tasks.filter fun entry => entry.2.stage = .loggingIn).map Prod.fst

/-- Each operation is noted once, and the logins are counted. -/
structure Counted (s : Session) : Prop where
  once : (s.tasks.map Prod.fst).Nodup
  count : s.loginsInFlight = s.insiders.length

/-- Where each name is noted once, what is looked up is what is noted. -/
theorem lookup_eq_some_iff {tasks : List (TaskId × Task)} (once : (tasks.map Prod.fst).Nodup)
    {id : TaskId} {task : Task} : tasks.lookup id = some task ↔ (id, task) ∈ tasks := by
  induction tasks with
  | nil => simp
  | cons entry rest ih =>
    obtain ⟨key, first⟩ := entry
    obtain ⟨fresh, once⟩ := List.nodup_cons.mp once
    by_cases same : id = key
    · subst same
      have none_later : (id, task) ∉ rest := fun mem =>
        fresh (List.mem_map.mpr ⟨(id, task), mem, rfl⟩)
      simp [none_later, eq_comm]
    · simpa [List.lookup_cons, beq_eq_false_iff_ne.mpr same, same] using ih once

theorem Counted.mem_insiders {s : Session} (h : Counted s) (id : TaskId) :
    id ∈ s.insiders ↔ s.Inside id := by
  simp only [insiders, List.mem_map, List.mem_filter, decide_eq_true_eq, Inside, task?,
    lookup_eq_some_iff h.once]
  constructor
  · rintro ⟨⟨_, goal, _⟩, ⟨mem, rfl⟩, rfl⟩
    exact ⟨goal, mem⟩
  · rintro ⟨goal, mem⟩
    exact ⟨_, ⟨mem, rfl⟩, rfl⟩

theorem Counted.insiders_nodup {s : Session} (h : Counted s) : s.insiders.Nodup :=
  h.once.sublist (List.filter_sublist.map Prod.fst)

theorem insiders_eraseTask {s : Session} (h : Counted s) (id : TaskId) :
    (s.eraseTask id).insiders = s.insiders.erase id := by
  rw [h.insiders_nodup.erase_eq_filter]
  simp only [insiders, eraseTask, List.filter_map, List.filter_filter]
  refine congrArg _ (List.filter_congr fun entry _ => ?_)
  by_cases same : entry.1 = id <;> simp [same]

theorem once_eraseTask {s : Session} (h : Counted s) (id : TaskId) :
    ((s.eraseTask id).tasks.map Prod.fst).Nodup :=
  h.once.sublist (List.filter_sublist.map Prod.fst)

theorem once_setTask {s : Session} (h : Counted s) (id : TaskId) (task : Task) :
    ((s.setTask id task).tasks.map Prod.fst).Nodup := by
  refine List.nodup_cons.mpr ⟨fun mem => ?_, once_eraseTask h id⟩
  obtain ⟨entry, mem, same⟩ := List.mem_map.mp mem
  simpa [same] using (List.mem_filter.mp mem).2

/-- An operation is over, or goes on outside of a login: if it was inside one, that is no longer
counted. -/
theorem Counted.leaves {s s' : Session} (h : Counted s) (id : TaskId)
    (tasks : s'.tasks = (s.eraseTask id).tasks ∨
      ∃ task, task.stage ≠ .loggingIn ∧ s'.tasks = (s.setTask id task).tasks)
    (counter : s'.loginsInFlight =
      if id ∈ s.insiders then s.loginsInFlight - 1 else s.loginsInFlight) : Counted s' := by
  have insiders : s'.insiders = s.insiders.erase id := by
    rw [← insiders_eraseTask h]
    rcases tasks with tasks | ⟨task, away, tasks⟩
    · simp only [Session.insiders, tasks]
    · simp only [Session.insiders, tasks, setTask]
      rw [List.filter_cons_of_neg (by simpa using away)]
  refine ⟨?_, by rw [counter, insiders, List.length_erase, h.count]⟩
  rcases tasks with tasks | ⟨task, -, tasks⟩
  · exact tasks ▸ once_eraseTask h id
  · exact tasks ▸ once_setTask h id task

/-- An operation that was not inside a login begins one. -/
theorem Counted.begins {s s' : Session} (h : Counted s) {id : TaskId} (outside : ¬ s.Inside id)
    (goal : Goal) (tasks : s'.tasks = (s.setTask id ⟨goal, .loggingIn⟩).tasks)
    (counter : s'.loginsInFlight = s.loginsInFlight + 1) : Counted s' := by
  have insiders : s'.insiders = id :: s.insiders := by
    have others := insiders_eraseTask h id
    rw [List.erase_of_not_mem (mt (h.mem_insiders id).mp outside)] at others
    rw [← others]
    simp only [Session.insiders, tasks, setTask]
    rw [List.filter_cons_of_pos (by simp)]
    rfl
  exact ⟨tasks ▸ once_setTask h id _, by rw [counter, insiders, List.length_cons, h.count]⟩

theorem Counted.leaves_from {s s' : Session} (h : Counted s) {id : TaskId} {goal : Goal}
    {stage : Stage} (here : s.task? id = some ⟨goal, stage⟩)
    (tasks : s'.tasks = (s.eraseTask id).tasks ∨
      ∃ task, task.stage ≠ .loggingIn ∧ s'.tasks = (s.setTask id task).tasks)
    (counter : s'.loginsInFlight =
      if stage = .loggingIn then s.loginsInFlight - 1 else s.loginsInFlight) : Counted s' := by
  refine h.leaves id tasks ?_
  have inside : id ∈ s.insiders ↔ stage = .loggingIn := by
    rw [h.mem_insiders]
    constructor
    · rintro ⟨other, there⟩
      cases here.symm.trans there
      rfl
    · rintro rfl
      exact ⟨goal, here⟩
  simpa only [inside] using counter

theorem withToken_counted {s s' : Session} (h : Counted s) {id : TaskId} {goal : Goal}
    {stage : Stage} (here : s.task? id = some ⟨goal, stage⟩) (token : String)
    (tasks : s'.tasks = s.tasks)
    (counter : s'.loginsInFlight =
      if stage = .loggingIn then s.loginsInFlight - 1 else s.loginsInFlight) :
    Counted (s'.withToken id goal token).1 := by
  obtain ⟨request, -, hs⟩ | ⟨outcome, hs⟩ := withToken_cases s' id goal token <;> rw [hs]
  · refine h.leaves_from here (.inr ⟨⟨goal, .sending⟩, by simp, ?_⟩) counter
    simp only [setTask, eraseTask, tasks]
  · refine h.leaves_from here (.inl ?_) counter
    simp only [finish, eraseTask, tasks]

/-- The count stays right with every event. -/
theorem Move.counted {s : Session} {event : Event} {moved : Moved} (move : Move s event moved)
    (h : Counted s) : Counted moved.1 := by
  cases move with
  | idle _ => exact h
  | redirected => exact ⟨h.once, h.count⟩
  | cookies => exact ⟨h.once, h.count⟩
  | credentials => exact ⟨h.once, h.count⟩
  | @started id goal gone =>
    refine h.leaves id (.inr ⟨⟨goal, .fresh⟩, by simp, rfl⟩) (if_neg ?_).symm
    exact mt (h.mem_insiders id).mp (not_inside_of_none gone)
  | @replaced id goal task here =>
    refine Counted.leaves_from h here (.inr ⟨⟨goal, .fresh⟩, by simp, ?_⟩) rfl
    simp [setTask, eraseTask, drop, List.filter_filter]
  | @dropped id task here => exact h.leaves_from here (.inl rfl) rfl
  | @queued id goal here _ _ _ _ =>
    exact h.leaves_from here (.inr ⟨⟨goal, .queued⟩, by simp, rfl⟩) rfl
  | @logsIn id goal s' entry =>
    obtain ⟨stage, here⟩ := entry.underWay
    have outside := entry.not_inside
    have away : stage ≠ .loggingIn := fun inside => outside ⟨goal, inside ▸ here⟩
    obtain ⟨request, -, hs⟩ | ⟨error, hs⟩ := startLogin_cases s' id goal <;> rw [hs]
    · refine h.begins outside goal ?_ ?_ <;> cases entry <;> rfl
    · refine h.leaves_from here (.inl ?_) ((?_ : _ = s.loginsInFlight).trans (if_neg away).symm) <;>
        cases entry <;> rfl
  | @granted id goal _ s' token grant =>
    cases grant with
    | cached here _ _ => exact withToken_counted h here token rfl rfl
    | handed here _ _ => exact withToken_counted h here token rfl rfl
    | loggedIn here _ _ => exact withToken_counted h here _ rfl rfl
  | @passed id request here =>
    exact h.leaves_from here (.inr ⟨⟨.send request, .sending⟩, by simp, rfl⟩) rfl
  | loginDone here _ => exact h.leaves_from here (.inl rfl) rfl
  | loginFailed here _ => exact h.leaves_from here (.inl rfl) rfl
  | answered here => exact h.leaves_from here (.inl rfl) rfl

theorem opened_counted (scheme : Scheme) (refresh : Refresh) (host : String)
    (credentials : Credentials) (holds : Url → Bool) :
    Counted (opened scheme refresh host credentials holds) := ⟨.nil, rfl⟩

theorem run_counted {s : Session} (h : Counted s) (events : List Event) :
    Counted (s.run events).1 :=
  run_invariant (fun s event => (step_move s event).counted) h events

/-! ## The state -/

/-- A token is cached exactly if one is stored and the current host holds a cookie. -/
theorem cachedToken_eq_some_iff {s : Session}
    (nonempty : ∀ login, s.context.login = some login → login.csrfToken ≠ "") {token : String} :
    s.cachedToken = some token ↔ ∃ login root, s.context.login = some login ∧
      endpoint s.scheme s.context.host "/" = .ok root ∧ s.holds root = true ∧
      login.csrfToken = token := by
  cases stored : s.context.login with
  | none => simp [cachedToken, Context.cachedToken, Context.token?, stored]
  | some login =>
    have known : s.context.token? = some login.csrfToken := by
      simp [Context.token?, stored, Option.filter, nonempty login stored]
    cases root : endpoint s.scheme s.context.host "/" with
    | error text => simp [cachedToken, Context.cachedToken, root]
    | ok url => simp [cachedToken, Context.cachedToken, known, root]

theorem state_authenticating_iff {s : Session} :
    s.state = .authenticating ↔ 0 < s.loginsInFlight := by
  by_cases busy : 0 < s.loginsInFlight <;> by_cases cached : s.cachedToken.isSome = true <;>
    simp [state, busy, cached]

theorem state_authenticated_iff {s : Session} :
    s.state = .authenticated ↔ ¬ 0 < s.loginsInFlight ∧ s.cachedToken.isSome = true := by
  by_cases busy : 0 < s.loginsInFlight <;> by_cases cached : s.cachedToken.isSome = true <;>
    simp [state, busy, cached]

theorem state_unauthenticated_iff {s : Session} :
    s.state = .unauthenticated ↔ ¬ 0 < s.loginsInFlight ∧ ¬ s.cachedToken.isSome = true := by
  by_cases busy : 0 < s.loginsInFlight <;> by_cases cached : s.cachedToken.isSome = true <;>
    simp [state, busy, cached]

/-- An operation that only wants a token and can run takes the cached one and is over. -/
theorem poll_token_cached {s : Session} {id : TaskId} {stage : Stage} {token : String}
    (here : s.task? id = some ⟨.token, stage⟩) (runs : ¬ s.Idle (.poll id))
    (cached : s.cachedToken = some token) :
    (s.step (.poll id)).2 = [.finished id (.ok (.token token))] := by
  have idle {stage : Stage} (here : s.task? id = some ⟨.token, stage⟩) (begun : stage ≠ .fresh)
      (through : stage = .queued → s.gate.owner ≠ some id) : s.Idle (.poll id) :=
    fun task there => by cases here.symm.trans there; exact ⟨begun, through⟩
  cases stage with
  | fresh => simp only [step, here, poll, begin, cached, withToken, finish]
  | queued =>
    have owns : s.gate.owner = some id :=
      Decidable.byContradiction fun other => runs (idle here (by decide) fun _ => other)
    simp only [step, here, poll, if_pos owns, useCached, cached, withToken, finish]
  | loggingIn => exact absurd (idle here (by decide) (by simp)) runs
  | sending => exact absurd (idle here (by decide) (by simp)) runs

theorem start_cachedToken (s : Session) (id : TaskId) (goal : Goal) :
    (s.step (.start id goal)).1.cachedToken = s.cachedToken := by
  simp only [step]
  cases s.task? id <;> rfl

/-- Whatever happens to a session, the logins it counts are those that operations have begun and
that are not over, so none is counted that is not there. It says that it is logging in exactly while
there is one; if there is none, that it is authenticated exactly if a login is stored and the
current host holds a cookie. Then whoever asks for a token has the stored one at once, and nothing
is sent. -/
theorem run_state (scheme : Scheme) (refresh : Refresh) (host : String)
    (credentials : Credentials) (holds : Url → Bool) (events : List Event) :
    let start := opened scheme refresh host credentials holds
    let s := (start.run events).1
    let backed := ∃ login root, s.context.login = some login ∧
      endpoint scheme s.context.host "/" = .ok root ∧ s.holds root = true
    (∃ ids : List TaskId, ids.Nodup ∧ (∀ id, id ∈ ids ↔ start.Outstanding events id) ∧
        s.loginsInFlight = ids.length) ∧
      (∀ id goal, s.task? id = some ⟨goal, .loggingIn⟩ → 0 < s.loginsInFlight) ∧
      (s.state = .authenticating ↔ ∃ id, start.Outstanding events id) ∧
      (s.state = .authenticated ↔ (∀ id, ¬ start.Outstanding events id) ∧ backed) ∧
      (s.state = .unauthenticated ↔ (∀ id, ¬ start.Outstanding events id) ∧ ¬ backed) ∧
      (s.state = .authenticated → ∃ login, s.context.login = some login ∧
        (∀ id, (s.run [.start id .token, .poll id]).2 =
          [.finished id (.ok (.token login.csrfToken))]) ∧
        ∀ id stage, s.task? id = some ⟨.token, stage⟩ → ¬ s.Idle (.poll id) →
          (s.step (.poll id)).2 = [.finished id (.ok (.token login.csrfToken))]) := by
  intro start s backed
  have counted : Counted s := run_counted (opened_counted _ _ _ _ _) events
  have settings : s.scheme = scheme := (run_settings start events).1
  have inside (id : TaskId) : s.Inside id ↔ start.Outstanding events id :=
    opened_inside_iff scheme refresh host credentials holds events id
  have members (id : TaskId) : id ∈ s.insiders ↔ start.Outstanding events id :=
    (counted.mem_insiders id).trans (inside id)
  have busy : 0 < s.loginsInFlight ↔ ∃ id, start.Outstanding events id := by
    rw [counted.count, List.length_pos_iff_exists_mem]
    exact exists_congr members
  have nonempty : ∀ login, s.context.login = some login → login.csrfToken ≠ "" := by
    intro login stored
    have last := (run_login start events).symm.trans stored
    rw [show start.context.login = none from rfl, Option.or_none] at last
    exact (logins_token (List.mem_of_getLast? last)).1
  have cached : s.cachedToken.isSome ↔ backed := by
    rw [Option.isSome_iff_exists]
    simp only [cachedToken_eq_some_iff nonempty, settings]
    exact ⟨fun ⟨_, login, root, stored, url, held, _⟩ => ⟨login, root, stored, url, held⟩,
      fun ⟨login, root, stored, url, held⟩ => ⟨_, login, root, stored, url, held, rfl⟩⟩
  refine ⟨⟨s.insiders, counted.insiders_nodup, members, counted.count⟩, ?_, ?_, ?_, ?_, ?_⟩
  · exact fun id goal here => busy.mpr ⟨id, (inside id).mp ⟨goal, here⟩⟩
  · rw [state_authenticating_iff, busy]
  · rw [state_authenticated_iff, busy, not_exists, cached]
  · rw [state_unauthenticated_iff, busy, not_exists, cached]
  · intro authenticated
    have held := (state_authenticated_iff.mp authenticated).2
    obtain ⟨token, held⟩ := Option.isSome_iff_exists.mp held
    obtain ⟨login, root, stored, -, -, rfl⟩ := (cachedToken_eq_some_iff nonempty).mp held
    refine ⟨login, stored, fun id => ?_, fun id stage here runs => poll_token_cached here runs held⟩
    have fresh := (task?_start s id .token id).trans (if_pos rfl)
    have runs : ¬ (s.step (.start id .token)).1.Idle (.poll id) := fun idle => (idle _ fresh).1 rfl
    have shown := poll_token_cached fresh runs ((start_cachedToken s id .token).trans held)
    have silent : (s.step (.start id .token)).2 = [] := rfl
    simp only [run, silent, shown, List.nil_append, List.append_nil]

end Session
end WlanAdmin
