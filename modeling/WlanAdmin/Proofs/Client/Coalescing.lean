import WlanAdmin.Client.Connection
import WlanAdmin.Proofs.Client.Account

/-!
# WlanAdmin.Proofs.Client.Coalescing

Calls that all find no token, with a gate: one of them logs in, and its login serves them all. A run
of such calls has three phases: no login has been sent; the first one is on its way; it has passed.

* `Ledger` : the calls that have been started are under way, or have handed over their own request.
* `phase_run` : what every step of a phase keeps, the whole phase keeps.
* `Opening`, `Leading`, `Sharing` : the three phases, each with what one step keeps.
* `calls_share_login` : there is one login, and a request with its token for each call.
-/

namespace WlanAdmin

/-- An operation of a call, whose path begins with a slash. -/
def Goal.IsCall (goal : Goal) : Prop :=
  ∃ (α : Type) (call : Call α) (path : String) (rest : List Char),
    call.GoesTo path ∧ path.toList = '/' :: rest ∧ call.goal = goal

/-- A request that an operation makes of its own, wherever that is. -/
def Goal.Makes (goal : Goal) (scheme : Scheme) (token : String) (request : HttpRequest) : Prop :=
  ∃ now : Session, now.scheme = scheme ∧ now.ownRequest token goal = some (.ok request)

/-- The operation that an event starts. -/
def Event.launch? : Event → Option (TaskId × Goal)
  | .start id goal => some (id, goal)
  | _ => none

/-- The operations that are started in a run, in order. -/
def launches (events : List Event) : List (TaskId × Goal) := events.filterMap Event.launch?

theorem launches_cons (event : Event) (rest : List Event) :
    launches (event :: rest) = event.launch?.toList ++ launches rest := by
  cases event <;> rfl

theorem launches_append (before after : List Event) :
    launches (before ++ after) = launches before ++ launches after := List.filterMap_append

theorem mem_launches {events : List Event} {id : TaskId} {goal : Goal} :
    (id, goal) ∈ launches events ↔ .start id goal ∈ events := by
  simp only [launches, List.mem_filterMap]
  constructor
  · rintro ⟨event, mem, starts⟩
    cases event with
    | start other begun => cases starts; exact mem
    | _ => cases starts
  · exact fun mem => ⟨_, mem, rfl⟩

theorem Event.starts_or (event : Event) :
    (∃ id goal, event = .start id goal) ∨
      (∀ id goal, event ≠ .start id goal) ∧ event.launch? = none := by
  cases event with
  | start id goal => exact .inl ⟨id, goal, rfl⟩
  | _ => exact .inr ⟨fun _ _ => nofun, rfl⟩

theorem Goal.IsCall.wantsToken {goal : Goal} (call : goal.IsCall) : goal.wantsToken = true := by
  obtain ⟨_, _, _, _, goes, -, rfl⟩ := call
  exact goes.wantsToken

theorem Goal.Makes.not_isLogin {goal : Goal} (isCall : goal.IsCall) {scheme : Scheme}
    {token : String} {request : HttpRequest} (makes : goal.Makes scheme token request) :
    ¬ Call.IsLogin scheme request := by
  obtain ⟨_, call, _, _, goes, -, rfl⟩ := isCall
  obtain ⟨now, same, made⟩ := makes
  exact Call.IsOwn.not_isLogin goes.wantsToken ⟨now, token, same, made⟩

namespace Session

variable {s : Session} {launched : List (TaskId × Goal)} {served : List TaskId} {lost : Prop}
  {id : TaskId} {goal : Goal} {stage : Stage} {event : Event}

/-! ## What has become of the calls -/

/-- The calls that have been started: those that are under way, those that have handed over their
own request, and none besides, unless some are `lost`. -/
structure Ledger (lost : Prop) (s : Session) (launched : List (TaskId × Goal))
    (served : List TaskId) : Prop where
  single : s.refresh = .singleFlight
  guarded : Guarded s
  calls : ∀ id goal, (id, goal) ∈ launched → goal.IsCall
  live : ∀ id goal stage, s.task? id = some ⟨goal, stage⟩ →
    (id, goal) ∈ launched ∧ (id ∈ served ↔ stage = .sending)
  pending : ∀ id goal, (id, goal) ∈ launched →
    id ∈ served ∨ (∃ stage, s.task? id = some ⟨goal, stage⟩) ∨ lost
  known : ∀ id ∈ served, id ∈ launched.map Prod.fst
  once : served.Nodup

theorem Ledger.kept (h : Ledger lost s launched served) (event : Event) :
    (s.step event).1.refresh = .singleFlight ∧ Guarded (s.step event).1 :=
  have move := step_move s event
  ⟨move.settings_eq.2.trans h.single, (move.passage h.single h.guarded).guarded h.guarded⟩

theorem Ledger.isCall (h : Ledger lost s launched served)
    (here : s.task? id = some ⟨goal, stage⟩) : goal.IsCall :=
  h.calls id goal (h.live id goal stage here).1

theorem step_others (concerned : event.task? = some id) {other : TaskId} (ne : other ≠ id) :
    (s.step event).1.task? other = s.task? other :=
  (step_move s event).others fun same => ne (Option.some.inj (same.symm.trans concerned))

/-- The calls that are there after a start: the one that was started, which has not run, and the
others as before. -/
theorem started_cases {other : TaskId} {begun : Goal}
    (now : (s.step (.start id goal)).1.task? other = some ⟨begun, stage⟩) :
    other = id ∧ begun = goal ∧ stage = .fresh ∨
      other ≠ id ∧ s.task? other = some ⟨begun, stage⟩ := by
  rw [task?_start] at now
  split at now
  · rename_i same
    cases now
    exact .inl ⟨same, rfl, rfl⟩
  · rename_i ne
    exact .inr ⟨ne, now⟩

/-- The calls that are there after one has got on: that one, as far as it has got, and the others as
before. -/
theorem moved_cases (concerned : event.task? = some id) {next : Option Stage}
    (there : (s.step event).1.task? id = next.map (Task.mk goal)) {other : TaskId} {begun : Goal}
    (now : (s.step event).1.task? other = some ⟨begun, stage⟩) :
    other = id ∧ begun = goal ∧ next = some stage ∨
      other ≠ id ∧ s.task? other = some ⟨begun, stage⟩ := by
  by_cases same : other = id
  · subst same
    rw [there] at now
    cases next with
    | none => cases now
    | some reached =>
      cases now
      exact .inl ⟨rfl, rfl, rfl⟩
  · exact .inr ⟨same, (step_others concerned same).symm.trans now⟩

theorem step_still (concerned : event.task? = some id)
    (still : (s.step event).1.task? id = s.task? id) (other : TaskId) :
    (s.step event).1.task? other = s.task? other := by
  by_cases same : other = id
  · rw [same, still]
  · exact step_others concerned same

/-- A call is started that was not there before. -/
theorem Ledger.start (h : Ledger lost s launched served) (isCall : goal.IsCall)
    (new : id ∉ launched.map Prod.fst) :
    Ledger lost (s.step (.start id goal)).1 (launched ++ [(id, goal)]) served := by
  obtain ⟨single, guarded⟩ := h.kept (.start id goal)
  refine ⟨single, guarded, ?_, ?_, ?_, ?_, h.once⟩
  · intro other begun mem
    rcases List.mem_append.mp mem with mem | mem
    · exact h.calls other begun mem
    · cases List.mem_singleton.mp mem
      exact isCall
  · intro other begun stage now
    rcases started_cases now with ⟨rfl, rfl, rfl⟩ | ⟨-, before⟩
    · exact ⟨by simp, iff_of_false (fun mem => new (h.known other mem)) nofun⟩
    · obtain ⟨mem, sending⟩ := h.live other begun stage before
      exact ⟨List.mem_append_left _ mem, sending⟩
  · intro other begun mem
    simp only [task?_start]
    rcases List.mem_append.mp mem with mem | mem
    · split
      · rename_i same
        exact absurd (same ▸ List.mem_map_of_mem mem) new
      · exact h.pending other begun mem
    · cases List.mem_singleton.mp mem
      exact .inr (.inl ⟨.fresh, if_pos rfl⟩)
  · intro other mem
    simp [h.known other mem]

/-- Nothing happens to any call. -/
theorem Ledger.still (h : Ledger lost s launched served)
    (same : ∀ id, (s.step event).1.task? id = s.task? id) :
    Ledger lost (s.step event).1 launched served where
  single := (h.kept event).1
  guarded := (h.kept event).2
  calls := h.calls
  live id goal stage here := h.live id goal stage ((same id).symm.trans here)
  pending id goal mem := by simpa only [same] using h.pending id goal mem
  known := h.known
  once := h.once

/-- One call gets on: it is over only if it has handed over its own request, or is lost. -/
theorem Ledger.moved (h : Ledger lost s launched served) (concerned : event.task? = some id)
    (here : s.task? id = some ⟨goal, stage⟩) (next : Option Stage)
    (there : (s.step event).1.task? id = next.map (Task.mk goal)) {also : List TaskId}
    (once : (served ++ also).Nodup) (own : ∀ other ∈ also, other = id)
    (done : next = none → id ∈ served ++ also ∨ lost)
    (sends : ∀ stage, next = some stage → (id ∈ served ++ also ↔ stage = .sending)) :
    Ledger lost (s.step event).1 launched (served ++ also) := by
  have launch := (h.live id goal stage here).1
  refine ⟨(h.kept event).1, (h.kept event).2, h.calls, ?_, ?_, ?_, once⟩
  · intro other begun stage now
    rcases moved_cases concerned there now with ⟨rfl, rfl, reached⟩ | ⟨ne, before⟩
    · exact ⟨launch, sends stage reached⟩
    · obtain ⟨mem, sending⟩ := h.live other begun stage before
      refine ⟨mem, ?_⟩
      rw [← sending, List.mem_append]
      exact or_iff_left fun mem => ne (own other mem)
  · intro other begun mem
    by_cases same : other = id
    · subst same
      cases next with
      | none => exact (done rfl).imp_right .inr
      | some reached =>
        rcases h.pending other begun mem with served | ⟨before, at_before⟩ | lost
        · exact .inl (List.mem_append_left _ served)
        · cases here.symm.trans at_before
          exact .inr (.inl ⟨reached, there⟩)
        · exact .inr (.inr lost)
    · rw [step_others concerned same]
      exact (h.pending other begun mem).imp_left (List.mem_append_left _)
  · intro other mem
    rcases List.mem_append.mp mem with mem | mem
    · exact h.known other mem
    · rw [own other mem]
      exact List.mem_map_of_mem launch

/-- A call gets on that has no request of its own to hand over yet. -/
theorem Ledger.waits (h : Ledger lost s launched served) (concerned : event.task? = some id)
    (here : s.task? id = some ⟨goal, stage⟩) (unsent : stage ≠ .sending) {next : Stage}
    (there : (s.step event).1.task? id = some ⟨goal, next⟩) (still : next ≠ .sending) :
    Ledger lost (s.step event).1 launched served := by
  have unserved : id ∉ served := mt (h.live id goal stage here).2.mp unsent
  rw [← List.append_nil served]
  refine h.moved concerned here (some next) there (by simpa using h.once) nofun nofun ?_
  rintro stage ⟨⟩
  simp [unserved, still]

/-- A call hands over its own request. -/
theorem Ledger.serves (h : Ledger lost s launched served) (concerned : event.task? = some id)
    (here : s.task? id = some ⟨goal, stage⟩) (unsent : stage ≠ .sending)
    (there : (s.step event).1.task? id = some ⟨goal, .sending⟩) :
    Ledger lost (s.step event).1 launched (served ++ [id]) := by
  have unserved : id ∉ served := mt (h.live id goal stage here).2.mp unsent
  refine h.moved concerned here (some .sending) there ?_ (by simp) nofun ?_
  · exact List.nodup_append.mpr ⟨h.once, by simp, fun a mem b single => by
      rw [List.mem_singleton.mp single]
      rintro rfl
      exact unserved mem⟩
  · rintro stage ⟨⟩
    simp

/-- A call is over. -/
theorem Ledger.ends (h : Ledger lost s launched served) (concerned : event.task? = some id)
    (here : s.task? id = some ⟨goal, stage⟩) (there : (s.step event).1.task? id = none)
    (done : id ∈ served ∨ lost) : Ledger lost (s.step event).1 launched served := by
  rw [← List.append_nil served]
  exact h.moved concerned here none there (by simpa using h.once) nofun
    (fun _ => by simpa using done) nofun

/-- What an event can do, besides starting and dropping calls. -/
theorem Ledger.step_cases (h : Ledger lost s launched served)
    (going : ∀ id goal, event ≠ .start id goal) :
    (∀ id, (s.step event).1.task? id = s.task? id) ∧ (s.step event).2 = [] ∨
      ∃ id goal stage next, event.task? = some id ∧ s.task? id = some ⟨goal, stage⟩ ∧
        goal.IsCall ∧ Advance s id goal stage event next (s.step event).2 ∧
        (s.step event).1.task? id = next.map (Task.mk goal) := by
  have move := step_move s event
  cases concerned : event.task? with
  | none =>
    refine .inl ⟨fun id => move.others (by rw [concerned]; nofun), ?_⟩
    refine List.eq_nil_iff_forall_not_mem.mpr fun output shown => ?_
    cases concerned.symm.trans (move.shows shown)
  | some id =>
    cases here : s.task? id with
    | none =>
      rw [move.absent concerned here (going id)]
      exact .inl ⟨fun _ => rfl, rfl⟩
    | some task =>
      have isCall := h.isCall here
      obtain ⟨next, advance, there⟩ := move.advance concerned here isCall.wantsToken (going id)
      exact .inr ⟨id, task.goal, task.stage, next, rfl, here, isCall, advance, there⟩

/-! ## The events of a run -/

/-- An event starts nothing but calls, each once, and drops none. -/
structure Joins (launched : List (TaskId × Goal)) (event : Event) : Prop where
  isCall : ∀ id goal, event = .start id goal → goal.IsCall
  new : ∀ id goal, event = .start id goal → id ∉ launched.map Prod.fst
  kept : ∀ id, event ≠ .drop id

/-- All events of a run start nothing but calls, each once, and drop none. -/
structure Joining (launched : List (TaskId × Goal)) (events : List Event) : Prop where
  calls : ∀ id goal, .start id goal ∈ events → goal.IsCall
  distinct : ((launched ++ launches events).map Prod.fst).Nodup
  kept : ∀ id, .drop id ∉ events

theorem Joining.head {rest : List Event} (h : Joining launched (event :: rest)) :
    Joins launched event where
  isCall id goal starts := h.calls id goal (starts ▸ List.mem_cons_self)
  new id goal starts mem := by
    have distinct := h.distinct
    subst starts
    rw [launches_cons, List.map_append] at distinct
    exact (List.nodup_append.mp distinct).2.2 id mem id (by simp [Event.launch?]) rfl
  kept id drops := h.kept id (drops ▸ List.mem_cons_self)

theorem Joining.split {before after : List Event} (h : Joining launched (before ++ after)) :
    Joining launched before ∧ Joining (launched ++ launches before) after := by
  have distinct := h.distinct
  rw [launches_append, ← List.append_assoc] at distinct
  refine ⟨⟨?_, ?_, ?_⟩, ⟨?_, distinct, ?_⟩⟩
  · exact fun id goal mem => h.calls id goal (List.mem_append_left _ mem)
  · rw [List.map_append] at distinct
    exact (List.nodup_append.mp distinct).1
  · exact fun id mem => h.kept id (List.mem_append_left _ mem)
  · exact fun id goal mem => h.calls id goal (List.mem_append_right _ mem)
  · exact fun id mem => h.kept id (List.mem_append_right _ mem)

theorem Joining.tail_of_going {rest : List Event} (h : Joining launched (event :: rest))
    (no_launch : event.launch? = none) : Joining launched rest where
  calls id goal mem := h.calls id goal (List.mem_cons_of_mem _ mem)
  distinct := by
    have distinct := h.distinct
    rwa [launches_cons, no_launch] at distinct
  kept id mem := h.kept id (List.mem_cons_of_mem _ mem)

theorem requests_append (before after : List Output) :
    Connection.requests (before ++ after) =
      Connection.requests before ++ Connection.requests after := List.filterMap_append

/-- What every step of a phase keeps, of the session, of the calls that have been started, and of
the requests that have been handed over, the whole phase keeps. -/
theorem phase_run {P : Session → List (TaskId × Goal) → List (TaskId × HttpRequest) → Prop}
    {C : Session → Event → Prop}
    (kept : ∀ s launched shown event, P s launched shown → Joins launched event → C s event →
      P (s.step event).1 (launched ++ event.launch?.toList)
        (shown ++ Connection.requests (s.step event).2))
    {shown : List (TaskId × HttpRequest)} {events : List Event} (h : P s launched shown)
    (joining : Joining launched events) (all : Throughout C s events) :
    P (s.run events).1 (launched ++ launches events)
      (shown ++ Connection.requests (s.run events).2) := by
  induction events generalizing s launched shown with
  | nil => simpa [run, launches, Connection.requests] using h
  | cons event rest ih =>
    obtain ⟨now, later⟩ := all
    have next := kept s launched shown event h joining.head now
    have first : launches [event] = event.launch?.toList :=
      (launches_cons event []).trans (List.append_nil _)
    have both : Joining launched ([event] ++ rest) := joining
    have tail : Joining (launched ++ event.launch?.toList) rest := first ▸ both.split.2
    have done := ih next tail later
    rw [launches_cons, ← List.append_assoc]
    simpa only [run, requests_append, List.append_assoc] using done

/-! ## Before the first login -/

/-- What is run finds no token cached, if it runs for the first time. -/
def FindsNone (s : Session) : Event → Prop
  | .poll id => s.cachedToken = none ∨ (s.task? id).map Task.stage ≠ some .fresh
  | _ => True

instance (s : Session) : (event : Event) → Decidable (FindsNone s event)
  | .poll _ => inferInstanceAs (Decidable (_ ∨ _))
  | .start .. | .answer .. | .drop _ | .redirected _ | .cookies _ | .setCredentials _ =>
    .isTrue trivial

theorem FindsNone.uncached (h : FindsNone s (.poll id))
    (fresh : s.task? id = some ⟨goal, .fresh⟩) : s.cachedToken = none :=
  h.resolve_right fun later => later (by rw [fresh]; rfl)

/-- No request has been handed over: the calls have not run yet, unless there is no URL to log in
at. -/
structure Opening (scheme : Scheme) (host : String) (s : Session)
    (launched : List (TaskId × Goal)) (shown : List (TaskId × HttpRequest)) : Prop where
  ledger : Ledger (∀ url, endpoint scheme host loginPath ≠ .ok url) s launched []
  same : s.scheme = scheme
  at_host : s.context.host = host
  fresh : ∀ id goal stage, s.task? id = some ⟨goal, stage⟩ → stage = .fresh
  silent : shown = []

/-- A call that runs while nothing has been handed over logs in, or has no URL to do so. -/
theorem Opening.advance {scheme : Scheme} {host : String}
    {shown : List (TaskId × HttpRequest)} (h : Opening scheme host s launched shown)
    (finds : FindsNone s event) (kept : event ≠ .drop id)
    (here : s.task? id = some ⟨goal, stage⟩) {next : Option Stage} {shows : List Output}
    (advance : Advance s id goal stage event next shows) :
    shows = [] ∧ next = some .fresh ∨
      (∃ request, s.context.loginRequest s.scheme = .ok request ∧ next = some .loggingIn ∧
        shows = [.sent id request]) ∨
      ∃ error outcome, s.context.loginRequest s.scheme = .error error ∧ next = none ∧
        shows = [.finished id outcome] := by
  cases h.fresh id goal stage here
  have ungranted {s' : Session} {token : String} : ¬ Grant s id goal event s' token := by
    intro grant
    cases grant with
    | cached _ _ cached => cases (finds.uncached here).symm.trans cached
    | handed waits _ _ => cases here.symm.trans waits
    | loggedIn login _ _ => cases here.symm.trans login
  cases advance with
  | idle _ => exact .inl ⟨rfl, rfl⟩
  | queued _ _ taken =>
    -- nobody can be at the gate
    have free := h.ledger.guarded.gate_free fun other there => by
      rcases there with ⟨_, -, there⟩ | ⟨_, -, there⟩ <;> cases h.fresh other _ _ there
    rw [free] at taken
    exact absurd rfl taken
  | logsIn _ made => exact .inr (.inl ⟨_, made, rfl, rfl⟩)
  | nowhere _ none_made => exact .inr (.inr ⟨_, _, none_made, rfl, rfl⟩)
  | sends grant _ => exact absurd grant ungranted
  | unsent grant _ => exact absurd grant ungranted
  | has grant _ => exact absurd grant ungranted
  | dropped => exact absurd rfl kept

theorem Opening.step {scheme : Scheme} {host : String} {shown : List (TaskId × HttpRequest)}
    (h : Opening scheme host s launched shown) (joins : Joins launched event)
    (finds : FindsNone s event) (unmoved : event.host? = none)
    (unsent : ∀ output ∈ (s.step event).2, ∀ id request, output = .sent id request →
      ¬ Call.IsLogin scheme request) :
    Opening scheme host (s.step event).1 (launched ++ event.launch?.toList)
      (shown ++ Connection.requests (s.step event).2) := by
  have move := step_move s event
  have same := move.settings_eq.1.trans h.same
  have at_host : (s.step event).1.context.host = host := by
    rw [step_host, unmoved]
    exact h.at_host
  rcases event.starts_or with ⟨id, goal, rfl⟩ | ⟨going, no_launch⟩
  · have started := h.ledger.start (joins.isCall id goal rfl) (joins.new id goal rfl)
    refine ⟨started, same, at_host, ?_, ?_⟩
    · intro other begun stage now
      rcases started_cases now with ⟨-, -, fresh⟩ | ⟨-, before⟩
      · exact fresh
      · exact h.fresh other begun stage before
    · rw [h.silent]; rfl
  · rw [no_launch, Option.toList_none, List.append_nil, h.silent, List.nil_append]
    rcases h.ledger.step_cases going with ⟨still, silent⟩ |
      ⟨id, goal, stage, next, concerned, here, isCall, advance, there⟩
    · refine ⟨h.ledger.still still, same, at_host, ?_, by rw [silent]; rfl⟩
      exact fun other begun stage here => h.fresh other begun stage ((still other).symm.trans here)
    · have fresh (ends : next = none ∨ next = some .fresh) (other : TaskId) (begun : Goal)
          (stage : Stage) (now : (s.step event).1.task? other = some ⟨begun, stage⟩) :
          stage = .fresh := by
        rcases moved_cases concerned there now with ⟨-, -, reached⟩ | ⟨-, before⟩
        · rcases ends with rfl | rfl <;> cases reached
          rfl
        · exact h.fresh other begun stage before
      cases h.fresh id goal stage here
      rcases h.advance finds (joins.kept id) here advance with ⟨silent, rfl⟩ |
        ⟨request, made, -, sent⟩ | ⟨error, outcome, none_made, rfl, ended⟩
      · exact ⟨h.ledger.waits concerned here nofun there nofun, same, at_host, fresh (.inr rfl),
          by rw [silent]; rfl⟩
      · refine absurd ⟨s.context, h.same ▸ made⟩ (unsent _ ?_ id request rfl)
        rw [sent]
        exact List.mem_singleton_self _
      · have nowhere : ∀ url, endpoint scheme host loginPath ≠ .ok url := by
          intro url formed
          rw [← h.same, ← h.at_host] at formed
          simp [Context.loginRequest, formed] at none_made
        exact ⟨h.ledger.ends concerned here there (.inr nowhere), same, at_host, fresh (.inl rfl),
          by rw [ended]; rfl⟩

/-! ## While the first login is on its way -/

/-- The login of one call is on its way, and that is all that has been handed over. -/
structure Leading (first : TaskId) (login : HttpRequest) (s : Session)
    (launched : List (TaskId × Goal)) (shown : List (TaskId × HttpRequest)) : Prop where
  ledger : Ledger False s launched []
  leads : s.LoggingIn first
  alone : ∀ id goal, s.task? id = some ⟨goal, .loggingIn⟩ → id = first
  shown_eq : shown = [(first, login)]

theorem Leading.owner {first : TaskId} {login : HttpRequest}
    {shown : List (TaskId × HttpRequest)} (h : Leading first login s launched shown) :
    s.gate.owner = some first := h.ledger.guarded.owner_iff.mpr (.inl h.leads)

/-- A call that finds none cached while another logs in waits at the gate. -/
theorem Leading.advance {first : TaskId} {login : HttpRequest}
    {shown : List (TaskId × HttpRequest)} (h : Leading first login s launched shown)
    (finds : FindsNone s event) (kept : event ≠ .drop id)
    (unanswered : ∀ answer, event ≠ .answer first answer) (isCall : goal.IsCall)
    (here : s.task? id = some ⟨goal, stage⟩) {next : Option Stage} {shows : List Output}
    (advance : Advance s id goal stage event next shows) :
    shows = [] ∧ (next = some stage ∨ stage = .fresh ∧ next = some .queued) := by
  have unowned (waits : stage = .queued) : s.gate.owner ≠ some id := by
    intro owns
    obtain ⟨_, -, leads⟩ := h.leads
    cases h.owner.symm.trans owns
    cases here.symm.trans leads
    cases waits
  have unentered {s' : Session} (entry : Entry s id goal s') : False := by
    cases entry with
    | login _ => cases isCall.wantsToken
    | stale _ _ concurrent _ => cases h.ledger.single.symm.trans concurrent
    | entered fresh _ _ _ owns =>
      simp only [Gate.enter, h.owner, Option.some.injEq] at owns
      obtain ⟨_, -, leads⟩ := h.leads
      cases owns
      cases fresh.symm.trans leads
    | handed waits owns _ =>
      cases here.symm.trans waits
      exact unowned rfl owns
  have ungranted {s' : Session} {token : String} (grant : Grant s id goal event s' token) :
      False := by
    cases grant with
    | cached fresh _ cached => cases (finds.uncached fresh).symm.trans cached
    | handed waits owns _ =>
      cases here.symm.trans waits
      exact unowned rfl owns
    | loggedIn login _ _ =>
      cases h.alone id goal login
      exact unanswered _ rfl
  cases advance with
  | idle _ => exact ⟨rfl, .inl rfl⟩
  | queued _ _ _ => exact ⟨rfl, .inr ⟨rfl, rfl⟩⟩
  | logsIn entry _ => exact (unentered entry).elim
  | nowhere entry _ => exact (unentered entry).elim
  | sends grant _ => exact (ungranted grant).elim
  | unsent grant _ => exact (ungranted grant).elim
  | has grant _ => exact (ungranted grant).elim
  | refused _ =>
    cases h.alone id goal here
    exact absurd rfl (unanswered _)
  | answered => cases (h.ledger.live id goal .sending here).2.mpr rfl
  | dropped => exact absurd rfl kept

theorem Leading.step {first : TaskId} {login : HttpRequest}
    {shown : List (TaskId × HttpRequest)} (h : Leading first login s launched shown)
    (joins : Joins launched event) (finds : FindsNone s event)
    (unanswered : ∀ answer, event ≠ .answer first answer) :
    Leading first login (s.step event).1 (launched ++ event.launch?.toList)
      (shown ++ Connection.requests (s.step event).2) := by
  obtain ⟨leader, wants, leads⟩ := h.leads
  rcases event.starts_or with ⟨id, goal, rfl⟩ | ⟨going, no_launch⟩
  · have new := joins.new id goal rfl
    have ne : first ≠ id := by
      rintro rfl
      exact new (List.mem_map_of_mem (h.ledger.live first leader _ leads).1)
    refine ⟨h.ledger.start (joins.isCall id goal rfl) new, ⟨leader, wants, ?_⟩, ?_, ?_⟩
    · rw [task?_start, if_neg ne]
      exact leads
    · intro other begun login
      rcases started_cases login with ⟨-, -, ⟨⟩⟩ | ⟨-, before⟩
      exact h.alone other begun before
    · rw [h.shown_eq]; rfl
  · rw [no_launch, Option.toList_none, List.append_nil]
    rcases h.ledger.step_cases going with ⟨still, silent⟩ |
      ⟨id, goal, stage, next, concerned, here, isCall, advance, there⟩
    · refine ⟨h.ledger.still still, ⟨leader, wants, (still first).trans leads⟩, ?_, ?_⟩
      · exact fun other begun here => h.alone other begun ((still other).symm.trans here)
      · rw [silent]
        exact (List.append_nil _).trans h.shown_eq
    · obtain ⟨silent, ends⟩ := h.advance finds (joins.kept id) unanswered isCall here advance
      have unsent : stage ≠ .sending := fun sends => by
        cases (h.ledger.live id goal stage here).2.mpr sends
      rw [silent]
      rcases ends with rfl | ⟨rfl, rfl⟩
      · have still := step_still concerned (there.trans here.symm)
        refine ⟨h.ledger.still still, ⟨leader, wants, (still first).trans leads⟩, ?_, ?_⟩
        · exact fun other begun here => h.alone other begun ((still other).symm.trans here)
        · exact (List.append_nil _).trans h.shown_eq
      · have ne : first ≠ id := by
          rintro rfl
          cases here.symm.trans leads
        refine ⟨h.ledger.waits concerned here nofun there nofun, ⟨leader, wants, ?_⟩, ?_, ?_⟩
        · exact (step_others concerned ne).trans leads
        · intro other begun login
          rcases moved_cases concerned there login with ⟨-, -, ⟨⟩⟩ | ⟨-, before⟩
          exact h.alone other begun before
        · exact (List.append_nil _).trans h.shown_eq

/-! ## Once the first login has passed -/

/-- The first login has passed, and its token is cached: what has been handed over is that login,
and own requests with its token. -/
structure Sharing (scheme : Scheme) (token : String) (lead : TaskId × HttpRequest)
    (s : Session) (launched : List (TaskId × Goal)) (shown : List (TaskId × HttpRequest)) :
    Prop where
  shared : ∃ handed, shown = lead :: handed ∧ Ledger False s launched (handed.map Prod.fst) ∧
    ∀ id own, (id, own) ∈ handed → ∃ goal, (id, goal) ∈ launched ∧ goal.Makes scheme token own
  same : s.scheme = scheme
  cached : s.cachedToken = some token
  through : ∀ id goal, s.task? id ≠ some ⟨goal, .loggingIn⟩

/-- With a token cached, all requests of a call can be made. -/
theorem canSend_of_cached (cached : s.cachedToken ≠ none) (isCall : goal.IsCall) :
    s.CanSend goal := by
  obtain ⟨_, call, _, _, goes, absolute, rfl⟩ := isCall
  unfold cachedToken Context.cachedToken at cached
  split at cached
  · rename_i root _ formed
    exact canSend goes absolute formed
  · exact absurd rfl cached

/-- The token that is cached is that of the stored login. -/
theorem cachedToken_eq {token : String} (cached : s.cachedToken ≠ none)
    (stored : s.context.login.map LoginResult.csrfToken = some token) :
    s.cachedToken = some token := by
  cases found : s.cachedToken with
  | none => exact absurd found cached
  | some other =>
    obtain ⟨login, known, rfl, -⟩ := cachedToken_stored found
    rw [known] at stored
    exact stored

/-- A call that runs while a token is cached hands over its own request, with that token. -/
theorem Sharing.advance {scheme : Scheme} {token : String} {lead : TaskId × HttpRequest}
    {shown : List (TaskId × HttpRequest)} (h : Sharing scheme token lead s launched shown)
    (kept : event ≠ .drop id) (isCall : goal.IsCall)
    (here : s.task? id = some ⟨goal, stage⟩) {next : Option Stage} {shows : List Output}
    (advance : Advance s id goal stage event next shows) :
    next = some stage ∧ shows = [] ∨
      (stage ≠ .sending ∧ next = some .sending ∧ ∃ own, shows = [.sent id own] ∧
        goal.Makes scheme token own) ∨
      stage = .sending ∧ next = none ∧ ∃ outcome, shows = [.finished id outcome] := by
  have can := canSend_of_cached (h.cached ▸ Option.some_ne_none token) isCall
  have entered {s' : Session} (entry : Entry s id goal s') : False := by
    cases h.cached.symm.trans (entry.uncached isCall.wantsToken)
  have granted {s' : Session} {found : String} (grant : Grant s id goal event s' found) :
      stage ≠ .sending ∧ found = token := by
    cases grant with
    | cached fresh _ cached =>
      cases here.symm.trans fresh
      exact ⟨nofun, Option.some.inj (cached.symm.trans h.cached)⟩
    | handed waits _ cached =>
      cases here.symm.trans waits
      exact ⟨nofun, Option.some.inj (cached.symm.trans h.cached)⟩
    | loggedIn login _ _ => exact absurd login (h.through id goal)
  cases advance with
  | idle _ => exact .inl ⟨rfl, rfl⟩
  | queued _ uncached _ => cases h.cached.symm.trans uncached
  | logsIn entry _ => exact (entered entry).elim
  | nowhere entry _ => exact (entered entry).elim
  | sends grant made =>
    obtain ⟨unsent, rfl⟩ := granted grant
    exact .inr (.inl ⟨unsent, rfl, _, rfl, s, h.same, made⟩)
  | @unsent _ _ _ found _ grant failed =>
    obtain ⟨_, made⟩ := can.own found
    cases made.symm.trans failed
  | @has _ _ _ found grant nothing =>
    obtain ⟨_, made⟩ := can.own found
    cases made.symm.trans nothing
  | refused _ => exact absurd here (h.through id goal)
  | answered => exact .inr (.inr ⟨rfl, rfl, _, rfl⟩)
  | dropped => exact absurd rfl kept

theorem Sharing.step {scheme : Scheme} {token : String} {lead : TaskId × HttpRequest}
    {shown : List (TaskId × HttpRequest)} (h : Sharing scheme token lead s launched shown)
    (joins : Joins launched event) (stays : (s.step event).1.cachedToken ≠ none) :
    Sharing scheme token lead (s.step event).1 (launched ++ event.launch?.toList)
      (shown ++ Connection.requests (s.step event).2) := by
  have move := step_move s event
  have same := move.settings_eq.1.trans h.same
  have cached : (s.step event).1.cachedToken = some token := by
    refine cachedToken_eq stays ?_
    have none_gained : s.gains event = none := by
      cases gained : s.gains event with
      | none => rfl
      | some login =>
        obtain ⟨id, goal, _, _, logging, _⟩ := gains_iff.mp gained
        exact absurd logging (h.through id goal)
    obtain ⟨login, stored, known, -⟩ := cachedToken_stored h.cached
    rw [step_login, none_gained, Option.none_or, stored, ← known]
    rfl
  obtain ⟨handed, rfl, ledger, made⟩ := h.shared
  rcases event.starts_or with ⟨id, goal, rfl⟩ | ⟨going, no_launch⟩
  · refine ⟨⟨handed, List.append_nil _, ledger.start (joins.isCall id goal rfl)
      (joins.new id goal rfl), fun other own mem => ?_⟩, same, cached, fun other begun login => ?_⟩
    · obtain ⟨goal, launch, makes⟩ := made other own mem
      exact ⟨goal, List.mem_append_left _ launch, makes⟩
    · rcases started_cases login with ⟨-, -, ⟨⟩⟩ | ⟨-, before⟩
      exact h.through other begun before
  · rw [no_launch, Option.toList_none, List.append_nil]
    rcases ledger.step_cases going with ⟨still, silent⟩ |
      ⟨id, goal, stage, next, concerned, here, isCall, advance, there⟩
    · rw [silent]
      exact ⟨⟨handed, List.append_nil _, ledger.still still, made⟩, same, cached,
        fun other begun logging => h.through other begun ((still other).symm.trans logging)⟩
    · have through (ends : next ≠ some .loggingIn) (other : TaskId) (begun : Goal) :
          (s.step event).1.task? other ≠ some ⟨begun, .loggingIn⟩ := by
        intro login
        rcases moved_cases concerned there login with ⟨-, -, reached⟩ | ⟨-, before⟩
        · exact ends reached
        · exact h.through other begun before
      rcases h.advance (joins.kept id) isCall here advance with ⟨rfl, silent⟩ |
        ⟨unsent, rfl, own, sent, makes⟩ | ⟨sending, rfl, outcome, ended⟩
      · have still := step_still concerned (there.trans here.symm)
        rw [silent]
        exact ⟨⟨handed, List.append_nil _, ledger.still still, made⟩, same, cached,
          fun other begun logging => h.through other begun ((still other).symm.trans logging)⟩
      · refine ⟨⟨handed ++ [(id, own)], by rw [sent]; rfl, ?_, ?_⟩, same, cached, through nofun⟩
        · rw [List.map_append]
          exact ledger.serves concerned here unsent there
        · intro other request mem
          rcases List.mem_append.mp mem with mem | mem
          · exact made other request mem
          · cases List.mem_singleton.mp mem
            exact ⟨goal, (ledger.live id goal stage here).1, makes⟩
      · have served := (ledger.live id goal stage here).2.mpr sending
        refine ⟨⟨handed, ?_, ledger.ends concerned here there (.inl served), made⟩, same, cached,
          through nofun⟩
        rw [ended]
        exact List.append_nil _

/-! ## From one phase to the next -/

/-- A call that runs before anything has been handed over, and hands over a request then, logs
in. -/
theorem Opening.leads {scheme : Scheme} {host : String} {first : TaskId} {login : HttpRequest}
    {shown : List (TaskId × HttpRequest)} (h : Opening scheme host s launched shown)
    (finds : FindsNone s (.poll first)) (sent : .sent first login ∈ (s.step (.poll first)).2) :
    Call.IsLogin scheme login ∧ Leading first login (s.step (.poll first)).1 launched
      (shown ++ Connection.requests (s.step (.poll first)).2) := by
  have going : ∀ id goal, Event.poll first ≠ .start id goal := fun _ _ => nofun
  rcases h.ledger.step_cases going with ⟨-, silent⟩ |
    ⟨id, goal, stage, next, concerned, here, isCall, advance, there⟩
  · rw [silent] at sent
    cases sent
  · cases concerned
    rcases h.advance finds nofun here advance with ⟨silent, -⟩ | ⟨request, made, rfl, shows⟩ |
      ⟨_, _, -, -, ended⟩
    · rw [silent] at sent
      cases sent
    · rw [shows] at sent
      cases List.mem_singleton.mp sent
      obtain ⟨url, formed, -⟩ := loginRequest_ok made
      rw [h.same, h.at_host] at formed
      cases h.fresh first goal stage here
      have waits := h.ledger.waits rfl here nofun there nofun
      refine ⟨⟨s.context, h.same ▸ made⟩, ?_, ⟨goal, isCall.wantsToken, there⟩, ?_, ?_⟩
      · exact { waits with
          pending := fun id goal mem => (waits.pending id goal mem).imp_right fun pending =>
            .inl (pending.resolve_right fun none_formed => none_formed url formed) }
      · intro other begun login
        rcases moved_cases rfl there login with ⟨at_first, -, -⟩ | ⟨-, before⟩
        · exact at_first
        · cases h.fresh other begun .loggingIn before
      · rw [shows, h.silent]
        rfl
    · rw [ended] at sent
      cases List.mem_singleton.mp sent

/-- The request of a call depends on the session through its host alone. -/
theorem ownRequest_congr {s' : Session} (same : s'.scheme = s.scheme)
    (at_host : s'.context.host = s.context.host) (token : String) (goal : Goal) :
    s'.ownRequest token goal = s.ownRequest token goal := by
  cases goal <;> simp only [ownRequest, url, same, at_host]

/-- The answer to the first login lets its call hand over its own request. -/
theorem Leading.shares {first : TaskId} {login : HttpRequest}
    {shown : List (TaskId × HttpRequest)} (h : Leading first login s launched shown)
    {page : HttpResponse} {result : LoginResult} (read : readLogin page.body = .ok result)
    (cached : (s.step (.answer first (.ok page))).1.cachedToken ≠ none) :
    Sharing s.scheme result.csrfToken (first, login) (s.step (.answer first (.ok page))).1 launched
      (shown ++ Connection.requests (s.step (.answer first (.ok page))).2) := by
  obtain ⟨goal, wants, here⟩ := h.leads
  have isCall := h.ledger.isCall here
  have move := step_move s (.answer first (.ok page))
  have same := move.settings_eq.1
  have at_host := step_host s (.answer first (.ok page))
  have stored : (s.step (.answer first (.ok page))).1.context.login = some result := by
    rw [step_login, gains_iff.mpr ⟨first, goal, page, rfl, here, read⟩, Option.some_or]
  have can (token : String) : ∃ own, s.ownRequest token goal = some (.ok own) := by
    obtain ⟨own, made⟩ := (canSend_of_cached cached isCall).own token
    exact ⟨own, ownRequest_congr same at_host token goal ▸ made⟩
  obtain ⟨next, advance, there⟩ := move.advance rfl here wants (fun _ => nofun)
  generalize (s.step (.answer first (.ok page))).2 = shows at advance
  generalize happens : Event.answer first (.ok page) = event at advance
  cases advance with
  | idle still =>
    subst happens
    exact absurd rfl (still _ here).1
  | @sends _ _ _ found own grant made =>
    subst happens
    have through : found = result.csrfToken := by
      cases grant with
      | loggedIn _ _ answered =>
        cases read.symm.trans answered
        rfl
    subst through
    refine ⟨⟨[(first, own)], by rw [h.shown_eq]; rfl, ?_, ?_⟩, same, ?_, ?_⟩
    · exact h.ledger.serves rfl here nofun there
    · intro other request mem
      cases List.mem_singleton.mp mem
      exact ⟨goal, (h.ledger.live first goal _ here).1, s, rfl, made⟩
    · exact cachedToken_eq cached (by rw [stored]; rfl)
    · intro other begun login
      rcases moved_cases rfl there login with ⟨-, -, ⟨⟩⟩ | ⟨ne, before⟩
      exact ne (h.alone other begun before)
  | @unsent _ _ _ found _ grant failed =>
    obtain ⟨_, made⟩ := can found
    cases made.symm.trans failed
  | @has _ _ _ found grant nothing =>
    obtain ⟨_, made⟩ := can found
    cases made.symm.trans nothing
  | refused failed =>
    cases happens
    cases read.symm.trans failed
  | logsIn _ _ => cases happens
  | nowhere _ _ => cases happens
  | dropped => cases happens

/-- Once the first login has passed and nothing is left to run, all calls have handed over their own
request. -/
theorem Ledger.all_served (h : Ledger False s launched served)
    (through : ∀ id goal, s.task? id ≠ some ⟨goal, .loggingIn⟩)
    (settled : ∀ id, s.Idle (.poll id)) (launch : (id, goal) ∈ launched) : id ∈ served := by
  have unqueued (other : TaskId) : ¬ s.AtGate other := by
    -- somebody would own the gate, and could be run
    intro here
    have owned : s.gate.owner ≠ none := fun free => by
      rcases h.guarded.present other here with owns | waits
      · cases free.symm.trans owns
      · rw [h.guarded.free free] at waits
        cases waits
    obtain ⟨owner, owns⟩ := Option.ne_none_iff_exists'.mp owned
    rcases (h.guarded.owner owner owns).1 with ⟨_, -, logging⟩ | ⟨_, -, waits⟩
    · exact through owner _ logging
    · exact (settled owner _ waits).2 rfl owns
  rcases h.pending id goal launch with mem | ⟨stage, here⟩ | ⟨⟨⟩⟩
  · exact mem
  · have isCall := h.isCall here
    cases stage with
    | fresh => exact absurd rfl (settled id _ here).1
    | queued => exact absurd (.inr ⟨goal, isCall.wantsToken, here⟩) (unqueued id)
    | loggingIn => exact absurd here (through id goal)
    | sending => exact (h.live id goal _ here).2.mpr rfl

/-! ## The whole run -/

/-- Calls that come together. Nothing but calls is started, each once, and none is dropped. They all
run first while no token is cached, unless the first login has been answered by then. `first` is the
one whose login is sent first. No redirect is reported before, as no request is on its way. Its page
logs in, and from the answer on a token is cached; and the run is so long that nothing is left that
could be run. -/
structure Gathering (s : Session) (first : TaskId) (login : HttpRequest) (page : HttpResponse)
    (result : LoginResult) (opening middle after : List Event) : Prop where
  joining : Joining [] (opening ++ .poll first :: (middle ++ .answer first (.ok page) :: after))
  uncached : Throughout FindsNone s (opening ++ .poll first :: middle)
  unmoved : ∀ event ∈ opening, event.host? = none
  unsent : ∀ id request, Output.sent id request ∈ (s.run opening).2 →
    ¬ Call.IsLogin s.scheme request
  sent : Output.sent first login ∈ ((s.run opening).1.step (.poll first)).2
  unanswered : ∀ answer, .answer first answer ∉ middle
  read : readLogin page.body = .ok result
  cached : Throughout (fun s event => (s.step event).1.cachedToken ≠ none)
    (s.run (opening ++ .poll first :: middle)).1 (.answer first (.ok page) :: after)
  settled : ∀ id, (s.run (opening ++ .poll first :: (middle ++ .answer first (.ok page) ::
    after))).1.Idle (.poll id)

/-- A session with a gate under which nothing is under way. -/
theorem opening_of_run (scheme : Scheme) (host : String) (credentials : Credentials)
    (holds : Url → Bool) (earlier : List Event) :
    let s := ((opened scheme .singleFlight host credentials holds).run earlier).1
    (∀ id, s.task? id = none) → Opening scheme s.context.host s [] [] := by
  intro s idle
  have none_under_way {id : TaskId} {task : Task} : s.task? id ≠ some task := by simp [idle id]
  exact {
    ledger := {
      single := (run_settings _ earlier).2
      guarded := run_guarded rfl (opened_guarded _ _ _ _ _) earlier
      calls := fun _ _ mem => nomatch mem
      live := fun _ _ _ here => absurd here none_under_way
      pending := fun _ _ mem => nomatch mem
      known := fun _ mem => nomatch mem
      once := .nil }
    same := (run_settings _ earlier).1
    at_host := rfl
    fresh := fun _ _ _ here => absurd here none_under_way
    silent := rfl }

theorem Gathering.run {scheme : Scheme} {host : String} {first : TaskId} {login : HttpRequest}
    {page : HttpResponse} {result : LoginResult} {opening middle after : List Event}
    (h : Gathering s first login page result opening middle after)
    (opens : Opening scheme host s [] []) :
    let events := opening ++ .poll first :: (middle ++ .answer first (.ok page) :: after)
    Call.IsLogin scheme login ∧ Sharing scheme result.csrfToken (first, login) (s.run events).1
      (launches events) (Connection.requests (s.run events).2) := by
  intro events
  -- the events, phase by phase
  obtain ⟨joins_opening, joins⟩ := h.joining.split
  obtain ⟨joins_middle, joins⟩ := joins.tail_of_going rfl |>.split
  have joins_after := joins.tail_of_going rfl
  obtain ⟨finds_opening, finds_first, finds_middle⟩ := throughout_append.mp h.uncached
  have state : (s.run (opening ++ .poll first :: middle)).1 =
      (((s.run opening).1.step (.poll first)).1.run middle).1 := run_append s opening _
  obtain ⟨cached, cached_after⟩ := state ▸ h.cached
  have shown_opening : ∀ output ∈ (s.run opening).2, ∀ id request, output = .sent id request →
      ¬ Call.IsLogin scheme request := by
    rintro _ shown id request rfl
    exact opens.same ▸ h.unsent id request shown
  have not_answered : ∀ event ∈ middle, ∀ answer, event ≠ .answer first answer := by
    rintro _ mem answer rfl
    exact h.unanswered answer mem
  -- the phases
  have opened := phase_run (fun s launched shown event opens joins conditions =>
      opens.step joins conditions.1.1 conditions.1.2 conditions.2) opens joins_opening
    ((finds_opening.and (throughout_of_mem s h.unmoved)).and (throughout_of_shown shown_opening))
  obtain ⟨isLogin, leads⟩ := opened.leads finds_first h.sent
  have led := phase_run (fun s launched shown event leads joins conditions =>
      leads.step joins conditions.1 conditions.2) leads joins_middle
    (finds_middle.and (throughout_of_mem _ not_answered))
  have same := (run_settings ((s.run opening).1.step (.poll first)).1 middle).1.trans
    ((step_move _ (.poll first)).settings_eq.1.trans opened.same)
  have shares := same ▸ led.shares h.read cached
  have done := phase_run (fun s launched shown event shares joins stays =>
    Sharing.step shares joins stays) shares joins_after cached_after
  have launched : launches events =
      [] ++ launches opening ++ launches middle ++ launches after := by
    simp only [events, launches_append, launches_cons, List.nil_append, List.append_assoc]
    rfl
  refine ⟨isLogin, ?_⟩
  rw [launched]
  simpa only [events, run_append, run_append_shown, Session.run, requests_append, List.nil_append,
    List.append_assoc] using done

/-- Calls that come together while no token is cached share one login, however many there are and
however their steps follow on one another: of all that they hand over, the first is a login, and the
rest is one request of its own for each of them, with the token of that login. -/
theorem calls_share_login (scheme : Scheme) (host : String) (credentials : Credentials)
    (holds : Url → Bool) (earlier opening middle after : List Event) (first : TaskId)
    (login : HttpRequest) (page : HttpResponse) (result : LoginResult) :
    let s := ((opened scheme .singleFlight host credentials holds).run earlier).1
    let events := opening ++ .poll first :: (middle ++ .answer first (.ok page) :: after)
    (∀ id, s.task? id = none) → Gathering s first login page result opening middle after →
    ∃ handed, Connection.requests (s.run events).2 = (first, login) :: handed ∧
      Call.IsLogin scheme login ∧
      (handed.map Prod.fst).Perm ((launches events).map Prod.fst) ∧
      ∀ id own, (id, own) ∈ handed → own.csrfToken = some result.csrfToken ∧
        ¬ Call.IsLogin scheme own ∧
        ∃ goal, .start id goal ∈ events ∧ goal.Makes scheme result.csrfToken own := by
  intro s events idle gathering
  obtain ⟨isLogin, done⟩ :=
    gathering.run (opening_of_run scheme host credentials holds earlier idle)
  obtain ⟨handed, shown, ledger, made⟩ := done.shared
  refine ⟨handed, shown, isLogin, ?_, fun id own mem => ?_⟩
  · refine (List.perm_ext_iff_of_nodup ledger.once gathering.joining.distinct).mpr fun id => ?_
    refine ⟨ledger.known id, fun mem => ?_⟩
    obtain ⟨⟨_, goal⟩, launch, rfl⟩ := List.mem_map.mp mem
    exact ledger.all_served done.through gathering.settled launch
  · obtain ⟨goal, launch, makes⟩ := made id own mem
    have isCall := ledger.calls id goal launch
    refine ⟨?_, makes.not_isLogin isCall, goal, mem_launches.mp launch, makes⟩
    obtain ⟨now, -, own⟩ := makes
    exact ownRequest_token own isCall.wantsToken

/-- One call waits at the gate, and another is started while the login is on its way, and runs first
once it has passed. -/
theorem calls_share_login_late_comer :
    let url (path : List String) : Url :=
      ⟨"https", "", "", some (.domain "h"), none, .segments path, none, none⟩
    let s := ((opened .https .singleFlight "h" ⟨"u", "p"⟩ fun _ => false).run []).1
    let login : HttpRequest := { HttpRequest.post (url ["admin", "login.jsp"])
      (Credentials.form ⟨"u", "p"⟩) with bodyLimit := loginBodyLimit }
    let page : HttpResponse := ⟨200, url [], utf8 "<script>var csfrToken = 't';</script>"⟩
    let answer (id : TaskId) : Event := .answer id (.ok ⟨200, url [], []⟩)
    let opening : List Event := [.start 0 (.get "/a" 1), .start 1 (.get "/b" 1)]
    let middle : List Event := [.poll 1, .start 2 (.get "/c" 1), .cookies fun _ => true]
    let after : List Event := [.poll 2, .poll 1, answer 0, answer 2, answer 1]
    Gathering s 0 login page ⟨none, none, "t"⟩ opening middle after ∧
      ∃ handed, Connection.requests
          (s.run (opening ++ .poll 0 :: (middle ++ .answer 0 (.ok page) :: after))).2 =
            (0, login) :: handed ∧
        (handed.map Prod.fst).Perm [0, 1, 2] ∧
        ∀ id own, (id, own) ∈ handed → own.csrfToken = some "t" := by
  intro url s login page answer opening middle after
  have get (path : String) {rest : List Char} (absolute : path.toList = '/' :: rest) :
      (Goal.get path 1).IsCall := ⟨Bytes, .get path 1, path, rest, .get, absolute, rfl⟩
  have read : readLogin page.body = .ok ⟨none, none, "t"⟩ := by
    have given : (readLogin page.body).toOption = some ⟨none, none, "t"⟩ := by decide +kernel
    cases found : readLogin page.body with
    | error error => rw [found] at given; cases given
    | ok result => rw [found] at given; cases given; rfl
  have ended : (s.run (opening ++ .poll 0 :: (middle ++ .answer 0 (.ok page) :: after))).1.tasks =
      [] := by decide +kernel
  have gathering : Gathering s 0 login page ⟨none, none, "t"⟩ opening middle after := {
    joining := {
      calls := by
        intro id goal mem
        simp only [opening, middle, after, answer, List.cons_append, List.nil_append,
          List.mem_cons, Event.start.injEq, reduceCtorEq, false_or, List.not_mem_nil, or_false]
          at mem
        rcases mem with ⟨-, rfl⟩ | ⟨-, rfl⟩ | ⟨-, rfl⟩
        · exact get "/a" rfl
        · exact get "/b" rfl
        · exact get "/c" rfl
      distinct := by decide
      kept := by simp [opening, middle, after, answer] }
    uncached := by decide +kernel
    unmoved := by simp [opening, Event.host?]
    unsent := fun _ _ sent => nomatch sent
    sent := mem_requests.mp (by decide +kernel)
    unanswered := by simp [middle]
    read := read
    cached := by decide +kernel
    settled := fun id task here => by rw [task?, ended] at here; cases here }
  obtain ⟨handed, shown, -, all, own⟩ := calls_share_login .https "h" ⟨"u", "p"⟩ (fun _ => false)
    [] opening middle after 0 login page ⟨none, none, "t"⟩ (fun _ => rfl) gathering
  exact ⟨gathering, handed, shown, all, fun id request mem => (own id request mem).1⟩

end Session
end WlanAdmin
