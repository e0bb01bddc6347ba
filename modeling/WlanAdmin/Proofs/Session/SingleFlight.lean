import WlanAdmin.Proofs.Session.Gate
import WlanAdmin.Proofs.Session.Moves

/-!
# WlanAdmin.Proofs.Session.SingleFlight

The gate that lets one operation at a time log in. Its owner is always an operation that is under
way, and whichever way the owner is through with it, the gate goes to the first that still waits.

* `Guarded` : the invariant of the gate.
* `Passage`, `Move.passage` : an event leaves the gate alone, or lets one operation in or out.
* `Passage.guarded` : what one event keeps.
* `Passage.handover` : who has the gate after the event.
* `single_flight` : what every run keeps.
-/

namespace WlanAdmin
namespace Session

/-- An operation that wants a token and whose login is on its way. -/
def LoggingIn (s : Session) (id : TaskId) : Prop :=
  ∃ goal, goal.wantsToken = true ∧ s.task? id = some ⟨goal, .loggingIn⟩

/-- An operation that wants a token and has come to the gate. -/
def Queued (s : Session) (id : TaskId) : Prop :=
  ∃ goal, goal.wantsToken = true ∧ s.task? id = some ⟨goal, .queued⟩

def AtGate (s : Session) (id : TaskId) : Prop := s.LoggingIn id ∨ s.Queued id

/-- An operation that is inside its login, or was handed the gate and has not run since. -/
def Holds (s : Session) (id : TaskId) : Prop :=
  s.LoggingIn id ∨ s.Queued id ∧ id ∉ s.gate.waiting

/-- The gate is owned by an operation at the gate, and the others there wait, each in one place. -/
structure Guarded (s : Session) : Prop where
  owner : ∀ id, s.gate.owner = some id → s.AtGate id ∧ id ∉ s.gate.waiting
  waiting : ∀ id ∈ s.gate.waiting, s.Queued id
  nodup : s.gate.waiting.Nodup
  free : s.gate.owner = none → s.gate.waiting = []
  present : ∀ id, s.AtGate id → s.gate.owner = some id ∨ id ∈ s.gate.waiting

theorem AtGate.stage {s : Session} {id : TaskId} {task : Task} (h : s.AtGate id)
    (ht : s.task? id = some task) :
    task.goal.wantsToken = true ∧ (task.stage = .loggingIn ∨ task.stage = .queued) := by
  rcases h with ⟨goal, hg, h⟩ | ⟨goal, hg, h⟩
  · rw [ht] at h; cases h; exact ⟨hg, .inl rfl⟩
  · rw [ht] at h; cases h; exact ⟨hg, .inr rfl⟩

theorem not_atGate_of_none {s : Session} {id : TaskId} (h : s.task? id = none) :
    ¬ s.AtGate id := by
  rintro (⟨goal, -, ht⟩ | ⟨goal, -, ht⟩) <;> rw [h] at ht <;> cases ht

theorem not_atGate_of_stage {s : Session} {id : TaskId} {goal : Goal} {stage : Stage}
    (h : s.task? id = some ⟨goal, stage⟩) (hl : stage ≠ .loggingIn) (hq : stage ≠ .queued) :
    ¬ s.AtGate id := fun hg => by
  rcases (hg.stage h).2 with hs | hs
  · exact hl hs
  · exact hq hs

theorem not_atGate_of_fresh {s : Session} {id : TaskId} {goal : Goal}
    (h : s.task? id = some ⟨goal, .fresh⟩) : ¬ s.AtGate id :=
  not_atGate_of_stage h (by decide) (by decide)

theorem not_atGate_of_goal {s : Session} {id : TaskId} {goal : Goal} {stage : Stage}
    (h : s.task? id = some ⟨goal, stage⟩) (hg : goal.wantsToken = false) : ¬ s.AtGate id :=
  fun ha => by have := (ha.stage h).1; simp [hg] at this

theorem atGate_congr {s s' : Session} {id : TaskId} (h : s'.task? id = s.task? id) :
    s'.AtGate id ↔ s.AtGate id := by
  simp only [AtGate, LoggingIn, Queued, h]

namespace Guarded

variable {s s' : Session} {id : TaskId}

/-- An operation that is not at the gate has nothing to leave. -/
theorem leave_eq (h : Guarded s) (away : ¬ s.AtGate id) : s.gate.leave id = s.gate := by
  have owner : s.gate.owner ≠ some id := fun ho => away (h.owner id ho).1
  have waits : id ∉ s.gate.waiting := fun hw => away (.inr (h.waiting id hw))
  exact Gate.leave_of_away owner waits

/-- The owner goes away: the first in the line becomes the owner. -/
theorem leave_owner (h : Guarded s) (others : ∀ other, other ≠ id → s'.task? other = s.task? other)
    (away : ¬ s'.AtGate id) (ho : s.gate.owner = some id)
    (gate : s'.gate = ⟨s.gate.waiting.head?, s.gate.waiting.tail⟩) : Guarded s' := by
  have hid : id ∉ s.gate.waiting := (h.owner id ho).2
  have waits : ∀ other, s'.AtGate other → other ∈ s.gate.waiting := by
    intro other ha
    have hne : other ≠ id := fun he => away (he ▸ ha)
    refine (h.present other ((atGate_congr (others other hne)).mp ha)).resolve_left fun hp => ?_
    exact hne (Option.some.inj (hp.symm.trans ho))
  have queued : ∀ other ∈ s.gate.waiting, s'.Queued other := by
    intro other hm
    obtain ⟨goal, hg, ht⟩ := h.waiting other hm
    exact ⟨goal, hg, (others other fun he => hid (he ▸ hm)).trans ht⟩
  have nodup := h.nodup
  cases hw : s.gate.waiting with
  | nil =>
    rw [hw] at gate waits
    refine ⟨?_, ?_, ?_, ?_, ?_⟩ <;> simp only [gate, List.head?_nil, List.tail_nil]
    · nofun
    · nofun
    · exact .nil
    · exact fun _ => trivial
    · exact fun other ha => absurd (waits other ha) nofun
  | cons first rest =>
    rw [hw] at gate waits queued nodup
    obtain ⟨hn, nodup⟩ := List.nodup_cons.mp nodup
    refine ⟨?_, ?_, ?_, ?_, ?_⟩ <;>
      simp only [gate, List.head?_cons, List.tail_cons, Option.some.injEq]
    · rintro other rfl
      exact ⟨.inr (queued _ List.mem_cons_self), hn⟩
    · exact fun other hm => queued other (List.mem_cons_of_mem _ hm)
    · exact nodup
    · nofun
    · exact fun other ha => (List.mem_cons.mp (waits other ha)).imp_left Eq.symm

/-- One operation goes away from the gate, or was not there. -/
theorem leave (h : Guarded s) (others : ∀ other, other ≠ id → s'.task? other = s.task? other)
    (away : ¬ s'.AtGate id) (gate : s'.gate = s.gate.leave id) : Guarded s' := by
  by_cases ho : s.gate.owner = some id
  · rw [Gate.leave_of_owner ho] at gate
    exact h.leave_owner others away ho gate
  · -- only its place in the line goes with it
    rw [Gate.leave_of_other ho] at gate
    refine ⟨?_, ?_, ?_, ?_, ?_⟩ <;> simp only [gate]
    · intro other hp
      have hne : other ≠ id := fun he => ho (he ▸ hp)
      obtain ⟨ha, hw⟩ := h.owner other hp
      exact ⟨(atGate_congr (others other hne)).mpr ha, fun hm => hw (List.mem_filter.mp hm).1⟩
    · intro other hm
      obtain ⟨hm, hne⟩ := List.mem_filter.mp hm
      obtain ⟨goal, hg, ht⟩ := h.waiting other hm
      exact ⟨goal, hg, (others other (by simpa using hne)).trans ht⟩
    · exact h.nodup.filter _
    · intro hf
      simp [h.free hf]
    · intro other ha
      have hne : other ≠ id := fun he => away (he ▸ ha)
      refine (h.present other ((atGate_congr (others other hne)).mp ha)).imp_right fun hm => ?_
      exact List.mem_filter.mpr ⟨hm, by simpa using hne⟩

/-- One operation comes to the gate: it owns the gate if that is free, and waits at the end of the
line otherwise. -/
theorem enter (h : Guarded s) (others : ∀ other, other ≠ id → s'.task? other = s.task? other)
    (fresh : ¬ s.AtGate id) (here : s'.AtGate id) (gate : s'.gate = s.gate.enter id)
    (stage : s.gate.owner ≠ none → s'.Queued id) : Guarded s' := by
  have same : ∀ other, other ≠ id → (s'.AtGate other ↔ s.AtGate other) :=
    fun other hne => atGate_congr (others other hne)
  have ne : ∀ other, s.AtGate other → other ≠ id := fun other ha he => fresh (he ▸ ha)
  cases ho : s.gate.owner with
  | none =>
    simp only [Gate.enter, ho, h.free ho] at gate
    refine ⟨?_, ?_, ?_, ?_, ?_⟩ <;> simp only [gate, Option.some.injEq]
    · rintro other rfl
      exact ⟨here, List.not_mem_nil⟩
    · exact fun _ hm => absurd hm List.not_mem_nil
    · exact .nil
    · exact fun taken => absurd taken (Option.some_ne_none id)
    · intro other ha
      refine .inl (Decidable.byContradiction fun hne => ?_)
      rcases h.present other ((same other (Ne.symm hne)).mp ha) with hp | hp
      · rw [ho] at hp; cases hp
      · rw [h.free ho] at hp; cases hp
  | some first =>
    simp only [Gate.enter, ho] at gate
    refine ⟨?_, ?_, ?_, ?_, ?_⟩ <;> simp only [gate, Option.some.injEq]
    · rintro other rfl
      obtain ⟨ha, hw⟩ := h.owner _ ho
      have hne := ne _ ha
      exact ⟨(same _ hne).mpr ha, by simp [hw, hne]⟩
    · intro other hm
      rcases List.mem_append.mp hm with hm | hm
      · obtain ⟨goal, hg, ht⟩ := h.waiting other hm
        exact ⟨goal, hg, (others other (ne other (.inr ⟨goal, hg, ht⟩))).trans ht⟩
      · rw [List.mem_singleton.mp hm]
        exact stage (by simp [ho])
    · refine List.nodup_append.mpr ⟨h.nodup, by simp, ?_⟩
      rintro a ha b hb rfl
      exact fresh (List.mem_singleton.mp hb ▸ .inr (h.waiting a ha))
    · exact fun taken => absurd taken (Option.some_ne_none first)
    · intro other ha
      by_cases he : other = id
      · exact .inr (by simp [he])
      · rcases h.present other ((same other he).mp ha) with hp | hp
        · exact .inl (Option.some.inj (ho.symm.trans hp))
        · exact .inr (by simp [hp])

/-- The owner starts its login. -/
theorem login (h : Guarded s) (others : ∀ other, other ≠ id → s'.task? other = s.task? other)
    (ho : s.gate.owner = some id) (here : s'.AtGate id) (gate : s'.gate = s.gate) :
    Guarded s' := by
  have hid : id ∉ s.gate.waiting := (h.owner id ho).2
  refine ⟨?_, ?_, gate ▸ h.nodup, gate ▸ h.free, ?_⟩ <;> simp only [gate]
  · intro other hp
    cases ho.symm.trans hp
    exact ⟨here, hid⟩
  · intro other hm
    obtain ⟨goal, hg, ht⟩ := h.waiting other hm
    exact ⟨goal, hg, (others other fun he => hid (he ▸ hm)).trans ht⟩
  · intro other ha
    by_cases he : other = id
    · exact .inl (he ▸ ho)
    · exact h.present other ((atGate_congr (others other he)).mp ha)

/-- A gate without an owner is as at the start. -/
theorem gate_of_owner_none (h : Guarded s) (free : s.gate.owner = none) : s.gate = {} := by
  have empty := h.free free
  cases hg : s.gate with
  | mk owner waiting =>
    rw [hg] at free empty
    simp only at free empty
    rw [free, empty]

/-- Where nobody is at the gate, it is free. -/
theorem gate_free (h : Guarded s) (nobody : ∀ id, ¬ s.AtGate id) : s.gate = {} := by
  refine h.gate_of_owner_none ?_
  cases owned : s.gate.owner with
  | none => rfl
  | some id => exact absurd (h.owner id owned).1 (nobody id)

/-- Who holds the gate owns it, and nobody else does. -/
theorem owner_iff (h : Guarded s) : s.gate.owner = some id ↔ s.Holds id := by
  constructor
  · intro ho
    obtain ⟨hl | hq, hw⟩ := h.owner id ho
    · exact .inl hl
    · exact .inr ⟨hq, hw⟩
  · rintro (hl | ⟨hq, hw⟩)
    · refine (h.present id (.inl hl)).resolve_right fun hw => ?_
      obtain ⟨goal, -, ht⟩ := h.waiting id hw
      obtain ⟨other, -, hl⟩ := hl
      cases hl.symm.trans ht
    · exact (h.present id (.inr hq)).resolve_right hw

end Guarded

/-! ## What one event does at the gate -/

/-- What happens at the gate between two states of a session: nothing, one operation goes away (if
it was there), one comes, or the owner starts its login. -/
inductive Passage (s s' : Session) : Prop where
  | same : (∀ id, s'.task? id = s.task? id) → s'.gate = s.gate → Passage s s'
  | leaves (id : TaskId) : (∀ other, other ≠ id → s'.task? other = s.task? other) →
      ¬ s'.AtGate id → s'.gate = s.gate.leave id → Passage s s'
  | enters (id : TaskId) : (∀ other, other ≠ id → s'.task? other = s.task? other) →
      ¬ s.AtGate id → s'.AtGate id → s'.gate = s.gate.enter id →
      (s.gate.owner ≠ none → s'.Queued id) → Passage s s'
  | logsIn (id : TaskId) : (∀ other, other ≠ id → s'.task? other = s.task? other) →
      s.gate.owner = some id → s'.AtGate id → s'.gate = s.gate → Passage s s'

theorem Passage.guarded {s s' : Session} (p : Passage s s') (h : Guarded s) : Guarded s' := by
  cases p with
  | same tasks gate =>
    have at_gate : ∀ id, s'.AtGate id ↔ s.AtGate id := fun id => atGate_congr (tasks id)
    refine ⟨?_, ?_, gate ▸ h.nodup, gate ▸ h.free, ?_⟩ <;> simp only [gate, at_gate]
    · exact h.owner
    · simpa only [Queued, tasks] using h.waiting
    · exact h.present
  | leaves id others away gate => exact h.leave others away gate
  | enters id others fresh here gate stage => exact h.enter others fresh here gate stage
  | logsIn id others ho here gate => exact h.login others ho here gate

/-- A step of an operation that is not at the gate and does not come to it. -/
theorem Guarded.elsewhere {s s' : Session} {id : TaskId} (h : Guarded s) (before : ¬ s.AtGate id)
    (others : ∀ other, other ≠ id → s'.task? other = s.task? other) (after : ¬ s'.AtGate id)
    (gate : s'.gate = s.gate) : Passage s s' :=
  .leaves id others after (gate.trans (h.leave_eq before).symm)

theorem eraseTask_away (s : Session) (id : TaskId) : ¬ (s.eraseTask id).AtGate id :=
  not_atGate_of_none ((task?_eraseTask s id id).trans (if_pos rfl))

theorem setTask_away (s : Session) (id : TaskId) (goal : Goal) {stage : Stage}
    (hl : stage ≠ .loggingIn) (hq : stage ≠ .queued) :
    ¬ (s.setTask id ⟨goal, stage⟩).AtGate id :=
  not_atGate_of_stage ((task?_setTask s id id _).trans (if_pos rfl)) hl hq

/-- Who comes to the gate and owns it has found it free. -/
theorem Guarded.gate_of_entered {s : Session} {id : TaskId} (h : Guarded s)
    (away : ¬ s.AtGate id) (ho : (s.gate.enter id).owner = some id) : s.gate = {} := by
  refine h.gate_of_owner_none ?_
  cases hf : s.gate.owner with
  | none => rfl
  | some first =>
    simp only [Gate.enter, hf] at ho
    exact absurd (h.owner id (hf.trans ho)).1 away

/-- With a token an operation is away from the gate. -/
theorem withToken_passage {s s' : Session} (id : TaskId) (goal : Goal) (token : String)
    (tasks : ∀ other, s'.task? other = s.task? other) (gate : s'.gate = s.gate.leave id) :
    Passage s (s'.withToken id goal token).1 := by
  obtain ⟨request, -, h⟩ | ⟨outcome, h⟩ := withToken_cases s' id goal token <;> rw [h]
  · exact .leaves id (fun other hne => (task?_setTask_of_ne s' id _ other hne).trans (tasks other))
      (setTask_away s' id goal nofun nofun) gate
  · exact .leaves id (fun other hne => (task?_eraseTask_of_ne s' id other hne).trans (tasks other))
      (eraseTask_away s' id) gate

theorem Grant.passage {s s' : Session} {id : TaskId} {goal : Goal} {event : Event} {token : String}
    (grant : Grant s id goal event s' token) (h : Guarded s) :
    Passage s (s'.withToken id goal token).1 := by
  cases grant with
  | cached ht _ _ =>
    have away := not_atGate_of_fresh ht
    exact withToken_passage id goal token (fun _ => rfl) (h.leave_eq away).symm
  | handed ht ho hc => exact withToken_passage id goal token (fun _ => rfl) rfl
  | loggedIn ht hg hr => exact withToken_passage id goal _ (fun _ => rfl) rfl

theorem Entry.passage {s s' : Session} {id : TaskId} {goal : Goal} (entry : Entry s id goal s')
    (single : s.refresh = .singleFlight) (h : Guarded s) :
    Passage s (s'.startLogin id goal).1 := by
  -- a login that cannot be sent leaves the gate as it was without the operation
  have refused : s'.task? = s.task? → s'.gate.leave id = s.gate.leave id →
      ∀ error, Passage s ({ s' with gate := s'.gate.leave id }.finish id error).1 :=
    fun tasks gate error => .leaves id (fun other hne =>
      (task?_eraseTask_of_ne { s' with gate := s'.gate.leave id } id other hne).trans
        (congrFun tasks other)) (eraseTask_away _ id) gate
  have here (t : Session) (hg : goal.wantsToken = true) :
      AtGate { t.setTask id ⟨goal, .loggingIn⟩ with loginsInFlight := t.loginsInFlight + 1 } id :=
    .inl ⟨goal, hg, (task?_setTask t id id _).trans (if_pos rfl)⟩
  obtain ⟨request, -, hs⟩ | ⟨error, hs⟩ := startLogin_cases s' id goal <;> rw [hs]
  · cases entry with
    | login ht =>
      refine h.elsewhere (show ¬ s.AtGate id from not_atGate_of_fresh ht)
        (task?_setTask_of_ne s id _) ?_ rfl
      exact not_atGate_of_goal ((task?_setTask s id id _).trans (if_pos rfl)) rfl
    | stale _ _ hr _ => rw [single] at hr; cases hr
    | entered ht hg _ _ ho =>
      have away := not_atGate_of_fresh ht
      refine .enters id (task?_setTask_of_ne _ id _) away (here _ hg) rfl fun taken => ?_
      exact absurd (congrArg Gate.owner (h.gate_of_entered away ho)) taken
    | handed ht ho _ =>
      exact .logsIn id (task?_setTask_of_ne s id _) ho
        (here _ ((h.owner id ho).1.stage ht).1) rfl
  · cases entry with
    | login _ => exact refused rfl rfl _
    | stale _ _ _ _ => exact refused rfl rfl _
    | handed _ _ _ => exact refused rfl rfl _
    | entered ht _ _ _ ho =>
      have away := not_atGate_of_fresh ht
      refine refused rfl ?_ _
      simp [h.gate_of_entered away ho, Gate.enter, Gate.leave]

/-- What one event does at the gate. -/
theorem Move.passage {s : Session} {event : Event} {moved : Moved} (move : Move s event moved)
    (single : s.refresh = .singleFlight) (h : Guarded s) : Passage s moved.1 := by
  cases move with
  | idle _ => exact .same (fun _ => rfl) rfl
  | redirected => exact .same (fun _ => rfl) rfl
  | cookies => exact .same (fun _ => rfl) rfl
  | credentials => exact .same (fun _ => rfl) rfl
  | @started id goal ht =>
    exact h.elsewhere (not_atGate_of_none ht) (task?_setTask_of_ne s id _)
      (setTask_away s id goal nofun nofun) rfl
  | @replaced id goal task ht =>
    refine .leaves id (fun other hne => ?_) (setTask_away _ id goal nofun nofun) rfl
    exact (task?_setTask_of_ne _ id _ other hne).trans (task?_eraseTask_of_ne s id other hne)
  | @dropped id task ht =>
    exact .leaves id (task?_eraseTask_of_ne s id) (eraseTask_away s id) rfl
  | @queued id goal ht hg _ _ ho =>
    have here : Queued ({ s with gate := s.gate.enter id }.setTask id ⟨goal, .queued⟩) id :=
      ⟨goal, hg, (task?_setTask _ id id _).trans (if_pos rfl)⟩
    exact .enters id (task?_setTask_of_ne _ id _) (not_atGate_of_fresh ht)
      (.inr here) rfl fun _ => here
  | logsIn entry => exact entry.passage single h
  | granted grant => exact grant.passage h
  | @passed id request ht =>
    exact h.elsewhere (not_atGate_of_fresh ht) (task?_setTask_of_ne s id _)
      (setTask_away s id _ nofun nofun) rfl
  | @loginDone id _ _ _ _ => exact .leaves id (task?_eraseTask_of_ne s id) (eraseTask_away s id) rfl
  | @loginFailed id _ _ _ _ _ =>
    exact .leaves id (task?_eraseTask_of_ne s id) (eraseTask_away s id) rfl
  | @answered id goal _ ht =>
    exact h.elsewhere (not_atGate_of_stage ht (by decide) (by decide)) (task?_eraseTask_of_ne s id)
      (eraseTask_away s id) rfl

/-! ## Handing the gate over -/

/-- The events with which the owner of the gate is through with it: it is dropped, its login is
answered in whatever way, it finds a cached token, or there is no URL to log in at. -/
inductive Exits (s : Session) (id : TaskId) : Event → Prop where
  | dropped : Exits s id (.drop id)
  | answered {answer : Except TransportError HttpResponse} : s.LoggingIn id →
      Exits s id (.answer id answer)
  | cached {token : String} : s.Queued id → s.cachedToken = some token → Exits s id (.poll id)
  | nowhere {error : TransportError} : s.Queued id →
      s.context.loginRequest s.scheme = .error error → Exits s id (.poll id)

theorem withToken_away (s : Session) (id : TaskId) (goal : Goal) (token : String) :
    ¬ (s.withToken id goal token).1.AtGate id := by
  obtain ⟨request, -, h⟩ | ⟨outcome, h⟩ := withToken_cases s id goal token <;> rw [h]
  · exact setTask_away s id goal nofun nofun
  · exact eraseTask_away s id

/-- An operation that has been handed the gate finds a cached token, or logs in. -/
theorem Move.handed {s : Session} {id : TaskId} {goal : Goal} {moved : Moved}
    (move : Move s (.poll id) moved) (ht : s.task? id = some ⟨goal, .queued⟩)
    (ho : s.gate.owner = some id) :
    (∃ (s' : Session) (token : String), s.cachedToken = some token ∧
      moved = s'.withToken id goal token) ∨
      s.cachedToken = none ∧ moved = s.startLogin id goal := by
  cases move with
  | idle h => exact absurd ho ((h _ ht).2 rfl)
  | queued h _ _ _ _ => rw [ht] at h; cases h
  | passed h => rw [ht] at h; cases h
  | granted grant =>
    cases grant with
    | cached h _ _ => rw [ht] at h; cases h
    | handed h _ hc => rw [ht] at h; cases h; exact .inl ⟨_, _, hc, rfl⟩
  | logsIn entry =>
    cases entry with
    | handed h _ hn => rw [ht] at h; cases h; exact .inr ⟨hn, rfl⟩
    | login h => rw [ht] at h; cases h
    | stale h _ _ _ => rw [ht] at h; cases h
    | entered h _ _ _ _ => rw [ht] at h; cases h

/-- Whoever owns the gate is away from it after an event with which it is through. -/
theorem Exits.away {s : Session} {id : TaskId} {event : Event} (exits : s.Exits id event)
    (ho : s.gate.owner = some id) : ¬ (s.step event).1.AtGate id := by
  have move := step_move s event
  generalize s.step event = moved at move ⊢
  cases exits with
  | dropped =>
    cases move with
    | idle h => exact not_atGate_of_none h
    | dropped h => exact eraseTask_away s id
    | granted grant => cases grant
  | answered logging =>
    obtain ⟨goal, -, ht⟩ := logging
    cases move with
    | idle h => exact absurd rfl (h _ ht).1
    | granted grant => cases grant; exact withToken_away _ id _ _
    | loginDone _ _ => exact eraseTask_away _ id
    | loginFailed _ _ => exact eraseTask_away _ id
    | answered h => rw [ht] at h; cases h
  | cached queued hc =>
    obtain ⟨goal, -, ht⟩ := queued
    obtain ⟨s', token, -, rfl⟩ | ⟨hn, -⟩ := move.handed ht ho
    · exact withToken_away s' id goal token
    · rw [hc] at hn; cases hn
  | nowhere queued hn =>
    obtain ⟨goal, -, ht⟩ := queued
    obtain ⟨s', token, -, rfl⟩ | ⟨-, rfl⟩ := move.handed ht ho
    · exact withToken_away s' id goal token
    · obtain ⟨request, hr, -⟩ | ⟨error, h⟩ := startLogin_cases s id goal
      · rw [hn] at hr; cases hr
      · rw [h]; exact eraseTask_away _ id

/-- The gate stays with its owner as long as that is at the gate, and then goes to the first in the
line. -/
theorem Passage.handover {s s' : Session} (p : Passage s s') (h : Guarded s) {id : TaskId}
    (ho : s.gate.owner = some id) :
    s'.gate.owner = some id ∧ s'.AtGate id ∨
      ¬ s'.AtGate id ∧ s'.gate = ⟨s.gate.waiting.head?, s.gate.waiting.tail⟩ := by
  have here : s.AtGate id := (h.owner id ho).1
  cases p with
  | same tasks gate => exact .inl ⟨gate ▸ ho, (atGate_congr (tasks id)).mpr here⟩
  | leaves other others away gate =>
    by_cases he : other = id
    · subst he
      exact .inr ⟨away, by rw [gate, Gate.leave_of_owner ho]⟩
    · refine .inl ⟨?_, (atGate_congr (others id (Ne.symm he))).mpr here⟩
      rw [gate, Gate.leave_of_other fun hp => he (Option.some.inj (hp.symm.trans ho))]
      exact ho
  | enters other others fresh _ gate _ =>
    have he : id ≠ other := fun he => fresh (he ▸ here)
    refine .inl ⟨?_, (atGate_congr (others id he)).mpr here⟩
    simp only [gate, Gate.enter, ho]
  | logsIn other others hp after gate =>
    cases hp.symm.trans ho
    exact .inl ⟨gate ▸ ho, after⟩

/-! ## Runs -/

theorem opened_guarded (scheme : Scheme) (refresh : Refresh) (host : String)
    (credentials : Credentials) (holds : Url → Bool) :
    Guarded (opened scheme refresh host credentials holds) where
  owner := nofun
  waiting := nofun
  nodup := .nil
  free _ := rfl
  present _ h := absurd h (not_atGate_of_none rfl)

theorem run_guarded {s : Session} (single : s.refresh = .singleFlight) (h : Guarded s)
    (events : List Event) : Guarded (s.run events).1 := by
  have kept := run_invariant (P := fun s => s.refresh = .singleFlight ∧ Guarded s)
    (fun s event ⟨single, h⟩ => ⟨(step_move s event).settings_eq.2.trans single,
      ((step_move s event).passage single h).guarded h⟩) ⟨single, h⟩ events
  exact kept.2

/-- Whatever happens to a session that logs in once for all: at most one of the logins of operations
that want a token is on its way; the gate is owned by exactly the operation that is inside its login
or has been handed the gate and has not run since; all that wait are under way; and an owner keeps
the gate until it is through with it, when the gate goes to the first that waits, if any does. -/
theorem single_flight (scheme : Scheme) (host : String) (credentials : Credentials)
    (holds : Url → Bool) (events : List Event) :
    let s := ((opened scheme .singleFlight host credentials holds).run events).1
    (∀ a b, s.LoggingIn a → s.LoggingIn b → a = b) ∧
      (∀ id, s.gate.owner = some id ↔ s.Holds id) ∧
      (∀ id ∈ s.gate.waiting, s.Queued id) ∧
      ∀ id event, s.gate.owner = some id →
        let s' := (s.step event).1
        s'.gate.owner = some id ∧ s'.Holds id ∧ ¬ s.Exits id event ∨
          ¬ s'.Holds id ∧ s'.gate = ⟨s.gate.waiting.head?, s.gate.waiting.tail⟩ := by
  intro s
  have single : s.refresh = .singleFlight := (run_settings _ events).2
  have h : Guarded s := run_guarded rfl (opened_guarded _ _ _ _ _) events
  refine ⟨?_, fun id => h.owner_iff, h.waiting, ?_⟩
  · intro a b ha hb
    have hoa := h.owner_iff.mpr (.inl ha)
    exact Option.some.inj (hoa.symm.trans (h.owner_iff.mpr (.inl hb)))
  · intro id event ho s'
    have p := (step_move s event).passage single h
    rcases p.handover h ho with ⟨owns, here⟩ | ⟨away, gate⟩
    · refine .inl ⟨owns, (p.guarded h).owner_iff.mp owns, fun exits => ?_⟩
      exact exits.away ho here
    · refine .inr ⟨fun held => away ?_, gate⟩
      exact held.imp_right And.left

/-- Two operations come to the gate, and the one that logs in is dropped. -/
example :
    ((opened .https .singleFlight "h" ⟨"u", "p"⟩ fun _ => false).run
      [.start 0 .token, .start 1 .token, .poll 0, .poll 1, .drop 0]).1.gate = ⟨some 1, []⟩ := by
  decide +kernel

end Session
end WlanAdmin
