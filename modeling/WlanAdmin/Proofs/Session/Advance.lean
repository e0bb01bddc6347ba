import WlanAdmin.Proofs.Session.Moves

/-!
# WlanAdmin.Proofs.Session.Advance

What one event can do to one operation that wants a token, read off the moves of the session, and
what is so of all steps of a run.

* `Advance`, `Move.advance` : how far an operation gets with an event, and what it shows.
* `Throughout` : what is so of every step of a run.
* `Entry.uncached`, `Grant.obtained` : what an operation has found when it logs in or goes on.
* `run_unpolled` : an operation that is not run stays as it was started.
-/

namespace WlanAdmin
namespace Session

/-- What an event does to an operation that wants a token: how far the operation is before, how far
it is afterwards, if it is still under way, and what it shows. -/
inductive Advance (s : Session) (id : TaskId) (goal : Goal) :
    Stage → Event → Option Stage → List Output → Prop where
  | idle {stage : Stage} {event : Event} : s.Idle event →
      Advance s id goal stage event (some stage) []
  /-- It finds the gate taken. -/
  | queued : s.refresh = .singleFlight → s.cachedToken = none →
      (s.gate.enter id).owner ≠ some id →
      Advance s id goal .fresh (.poll id) (some .queued) []
  | logsIn {stage : Stage} {s' : Session} {request : HttpRequest} : Entry s id goal s' →
      s.context.loginRequest s.scheme = .ok request →
      Advance s id goal stage (.poll id) (some .loggingIn) [.sent id request]
  /-- There is no URL to log in at. -/
  | nowhere {stage : Stage} {s' : Session} {error : TransportError} : Entry s id goal s' →
      s.context.loginRequest s.scheme = .error error →
      Advance s id goal stage (.poll id) none [.finished id (.error (.transport error))]
  | sends {stage : Stage} {event : Event} {s' : Session} {token : String} {request : HttpRequest} :
      Grant s id goal event s' token → s.ownRequest token goal = some (.ok request) →
      Advance s id goal stage event (some .sending) [.sent id request]
  /-- There is no URL to send its own request to. -/
  | unsent {stage : Stage} {event : Event} {s' : Session} {token : String} {error : SessionError} :
      Grant s id goal event s' token → s.ownRequest token goal = some (.error error) →
      Advance s id goal stage event none [.finished id (.error error)]
  /-- The token is all it wants. -/
  | has {stage : Stage} {event : Event} {s' : Session} {token : String} :
      Grant s id goal event s' token → s.ownRequest token goal = none →
      Advance s id goal stage event none [.finished id (.ok (.token token))]
  | refused {answer : Except TransportError HttpResponse} {error : SessionError} :
      loginResult answer = .error error →
      Advance s id goal .loggingIn (.answer id answer) none [.finished id (.error error)]
  | answered {answer : Except TransportError HttpResponse} :
      Advance s id goal .sending (.answer id answer) none [.finished id (outcomeOf goal answer)]
  | dropped {stage : Stage} : Advance s id goal stage (.drop id) none []

/-- With a token, an operation advances by its own request. -/
theorem Grant.advance {s s' : Session} {id : TaskId} {goal : Goal} {event : Event} {token : String}
    (grant : Grant s id goal event s' token) (stage : Stage) :
    ∃ after, Advance s id goal stage event after (s'.withToken id goal token).2 ∧
      (s'.withToken id goal token).1.task? id = after.map (Task.mk goal) := by
  have own := grant.ownRequest_eq token
  have erased (outcome : Outcome) : (s'.finish id outcome).1.task? id = none :=
    (task?_eraseTask s' id id).trans (if_pos rfl)
  rw [withToken_eq, own]
  cases made : s.ownRequest token goal with
  | none => exact ⟨none, .has grant made, erased _⟩
  | some attempt =>
    cases attempt with
    | error error => exact ⟨none, .unsent grant made, erased _⟩
    | ok request =>
      exact ⟨some .sending, .sends grant made, (task?_setTask s' id id _).trans (if_pos rfl)⟩

/-- An operation that comes to log in advances by the request of the login. -/
theorem Entry.advance {s s' : Session} {id : TaskId} {goal : Goal} (entry : Entry s id goal s')
    (stage : Stage) :
    ∃ after, Advance s id goal stage (.poll id) after (s'.startLogin id goal).2 ∧
      (s'.startLogin id goal).1.task? id = after.map (Task.mk goal) := by
  have unchanged : s'.context.loginRequest s'.scheme = s.context.loginRequest s.scheme := by
    cases entry <;> rfl
  simp only [startLogin, unchanged]
  cases made : s.context.loginRequest s.scheme with
  | ok request =>
    exact ⟨some .loggingIn, .logsIn entry made, (task?_setTask s' id id _).trans (if_pos rfl)⟩
  | error error =>
    exact ⟨none, .nowhere entry made, (task?_eraseTask _ id id).trans (if_pos rfl)⟩

/-- What an event does to an operation that it concerns. -/
theorem Move.advance {s : Session} {event : Event} {moved : Moved} (move : Move s event moved)
    {id : TaskId} {goal : Goal} {stage : Stage} (concerned : event.task? = some id)
    (here : s.task? id = some ⟨goal, stage⟩) (wants : goal.wantsToken = true)
    (going : ∀ other, event ≠ .start id other) :
    ∃ after, Advance s id goal stage event after moved.2 ∧
      moved.1.task? id = after.map (Task.mk goal) := by
  have erased (t : Session) : (t.eraseTask id).task? id = none :=
    (task?_eraseTask t id id).trans (if_pos rfl)
  cases move with
  | idle still => exact ⟨some stage, .idle still, here⟩
  | redirected => cases concerned
  | cookies => cases concerned
  | credentials => cases concerned
  | started _ => cases concerned; exact absurd rfl (going _)
  | replaced _ => cases concerned; exact absurd rfl (going _)
  | dropped h =>
    cases concerned
    exact ⟨none, .dropped, erased s⟩
  | queued h _ single uncached taken =>
    cases concerned
    cases here.symm.trans h
    exact ⟨some .queued, .queued single uncached taken,
      (task?_setTask _ id id _).trans (if_pos rfl)⟩
  | logsIn entry =>
    cases concerned
    obtain ⟨_, there⟩ := entry.underWay
    cases here.symm.trans there
    exact entry.advance stage
  | granted grant =>
    cases grant.concerns.symm.trans concerned
    obtain ⟨_, there⟩ := grant.underWay
    cases here.symm.trans there
    exact grant.advance stage
  | passed h =>
    cases concerned
    cases here.symm.trans h
    cases wants
  | loginDone h _ =>
    cases concerned
    cases here.symm.trans h
    cases wants
  | loginFailed h failed =>
    cases concerned
    cases here.symm.trans h
    exact ⟨none, .refused failed, erased _⟩
  | answered h =>
    cases concerned
    cases here.symm.trans h
    exact ⟨none, .answered, erased s⟩

/-- Where there is no operation, an event that starts none shows nothing. -/
theorem Move.absent {s : Session} {event : Event} {moved : Moved} (move : Move s event moved)
    {id : TaskId} (concerned : event.task? = some id) (gone : s.task? id = none)
    (going : ∀ other, event ≠ .start id other) : moved = (s, []) := by
  have none_under_way {task : Task} : s.task? id ≠ some task := by simp [gone]
  cases move with
  | idle _ => rfl
  | redirected => cases concerned
  | cookies => cases concerned
  | credentials => cases concerned
  | started _ => cases concerned; exact absurd rfl (going _)
  | replaced _ => cases concerned; exact absurd rfl (going _)
  | logsIn entry =>
    cases concerned
    obtain ⟨_, there⟩ := entry.underWay
    exact absurd there none_under_way
  | granted grant =>
    cases grant.concerns.symm.trans concerned
    obtain ⟨_, there⟩ := grant.underWay
    exact absurd there none_under_way
  | dropped h => cases concerned; exact absurd h none_under_way
  | queued h _ _ _ _ => cases concerned; exact absurd h none_under_way
  | passed h => cases concerned; exact absurd h none_under_way
  | loginDone h _ => cases concerned; exact absurd h none_under_way
  | loginFailed h _ => cases concerned; exact absurd h none_under_way
  | answered h => cases concerned; exact absurd h none_under_way

/-- An operation that wants a token logs in only where none is cached. -/
theorem Entry.uncached {s s' : Session} {id : TaskId} {goal : Goal} (entry : Entry s id goal s')
    (wants : goal.wantsToken = true) : s.cachedToken = none := by
  cases entry with
  | login _ => cases wants
  | stale _ _ _ uncached => exact uncached
  | entered _ _ _ uncached _ => exact uncached
  | handed _ _ uncached => exact uncached

/-- An operation finds a token cached, or gets it from the answer to its own login. -/
def Obtains (s : Session) (id : TaskId) (event : Event) (token : String) : Prop :=
  s.cachedToken = some token ∨ ∃ answer result, event = .answer id answer ∧
    loginResult answer = .ok result ∧ result.csrfToken = token

theorem Grant.obtained {s s' : Session} {id : TaskId} {goal : Goal} {event : Event} {token : String}
    (grant : Grant s id goal event s' token) : s.Obtains id event token := by
  cases grant with
  | cached _ _ cached => exact .inl cached
  | handed _ _ cached => exact .inl cached
  | loggedIn _ _ read => exact .inr ⟨_, _, rfl, read, rfl⟩

/-- As long as an operation is not run, dropped or started once more, it stays as it was started. -/
theorem step_unpolled {s : Session} {id : TaskId} {goal : Goal} {event : Event}
    (fresh : s.task? id = some ⟨goal, .fresh⟩) (unpolled : event ≠ .poll id)
    (kept : event ≠ .drop id) (once : ∀ other, event ≠ .start id other) :
    (s.step event).1.task? id = some ⟨goal, .fresh⟩ := by
  by_cases concerned : event.task? = some id
  · cases event with
    | answer other answer =>
      cases concerned
      simp only [step, fresh, Session.answer]
    | start other begun => cases concerned; exact absurd rfl (once begun)
    | poll other => cases concerned; exact absurd rfl unpolled
    | drop other => cases concerned; exact absurd rfl kept
    | _ => cases concerned
  · exact ((step_move s event).others concerned).trans fresh

theorem run_unpolled {s : Session} {id : TaskId} {goal : Goal} {events : List Event}
    (fresh : s.task? id = some ⟨goal, .fresh⟩) (unpolled : .poll id ∉ events)
    (kept : .drop id ∉ events) (once : ∀ other, .start id other ∉ events) :
    (s.run events).1.task? id = some ⟨goal, .fresh⟩ := by
  induction events generalizing s with
  | nil => exact fresh
  | cons event rest ih =>
    simp only [List.mem_cons, not_or] at unpolled kept once
    exact ih (step_unpolled fresh (Ne.symm unpolled.1) (Ne.symm kept.1)
      fun other => Ne.symm (once other).1) unpolled.2 kept.2 fun other => (once other).2

/-- An operation that finds a token cached at its first run goes on with it at once. -/
theorem step_poll_cached {s : Session} {id : TaskId} {goal : Goal} {token : String}
    (fresh : s.task? id = some ⟨goal, .fresh⟩) (wants : goal.wantsToken = true)
    (cached : s.cachedToken = some token) : s.step (.poll id) = s.withToken id goal token := by
  simp only [step, fresh, poll]
  cases goal with
  | login => cases wants
  | send request => cases wants
  | token | post path body | get path limit => simp only [begin, cached]

/-! ## All steps of a run -/

/-- Something is so of every step of a run: of the session before it, and the event. -/
def Throughout (P : Session → Event → Prop) (s : Session) : List Event → Prop
  | [] => True
  | event :: rest => P s event ∧ Throughout P (s.step event).1 rest

instance Throughout.decidable {P : Session → Event → Prop} [∀ s event, Decidable (P s event)]
    (s : Session) : (events : List Event) → Decidable (Throughout P s events)
  | [] => .isTrue trivial
  | _ :: rest => @instDecidableAnd _ _ _ (Throughout.decidable _ rest)

theorem throughout_append {P : Session → Event → Prop} {s : Session} {before after : List Event} :
    Throughout P s (before ++ after) ↔
      Throughout P s before ∧ Throughout P (s.run before).1 after := by
  induction before generalizing s with
  | nil => exact ⟨fun h => ⟨trivial, h⟩, And.right⟩
  | cons event rest ih =>
    simp only [List.cons_append, Throughout, run, ih, and_assoc]

theorem Throughout.front {P : Session → Event → Prop} {s : Session} {before events : List Event}
    (h : Throughout P s events) (first : before <+: events) : Throughout P s before := by
  obtain ⟨after, rfl⟩ := first
  exact (throughout_append.mp h).1

theorem Throughout.and {P Q : Session → Event → Prop} {s : Session} {events : List Event}
    (h : Throughout P s events) (h' : Throughout Q s events) :
    Throughout (fun s event => P s event ∧ Q s event) s events := by
  induction events generalizing s with
  | nil => trivial
  | cons event rest ih => exact ⟨⟨h.1, h'.1⟩, ih h.2 h'.2⟩

theorem throughout_of_mem {P : Event → Prop} (s : Session) {events : List Event}
    (h : ∀ event ∈ events, P event) : Throughout (fun _ event => P event) s events := by
  induction events generalizing s with
  | nil => trivial
  | cons event rest ih =>
    exact ⟨h event List.mem_cons_self, ih _ fun other mem => h other (List.mem_cons_of_mem _ mem)⟩

theorem throughout_of_shown {P : Output → Prop} {s : Session} {events : List Event}
    (h : ∀ output ∈ (s.run events).2, P output) :
    Throughout (fun s event => ∀ output ∈ (s.step event).2, P output) s events := by
  induction events generalizing s with
  | nil => trivial
  | cons event rest ih =>
    refine ⟨fun output shown => h output (List.mem_append_left _ shown), ih fun output shown => ?_⟩
    exact h output (List.mem_append_right _ shown)

end Session
end WlanAdmin
