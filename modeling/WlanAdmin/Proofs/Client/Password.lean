import Mathlib.Data.List.Forall2
import WlanAdmin.Network.Scripted
import WlanAdmin.Proofs.Client.Script
import WlanAdmin.Proofs.Http.Redirects

/-!
# WlanAdmin.Proofs.Client.Password

The password of a session goes into the forms of its logins, and nowhere else. Two sessions that
differ in their passwords alone move in step: whatever happens to them, they show the same, but for
the value of the password field in the forms that they log in with.

* `HttpRequest.Alike`, `Output.Alike` : what is the same but for that value.
* `step_alike`                        : one step of two sessions.
* `Connection.poll_alike`             : and of two connections, over a network that does not look
  into the forms.
* `HttpNetwork.transport_blind`       : such a network, from hosts that do not look into bodies.
* `trace_alike`                       : whole runs of two machines that move in step.
* `password_unseen`                   : sessions and connections, under scripts of any length.
-/

namespace WlanAdmin

/-! ## Requests -/

/-- The form of a login. -/
def loginForm (username password : String) : Bytes :=
  utf8 (String.ofList ("username=".toList ++ Url.formText username ++
    "&password=".toList ++ Url.formText password ++ "&ok=Log%C2%A0in".toList))

theorem Credentials.form_eq (credentials : Credentials) :
    credentials.form = loginForm credentials.username credentials.password := by
  have button : Url.formText loginButton = "Log%C2%A0in".toList := by decide
  have names : Url.formText "username" = "username".toList ∧
      Url.formText "password" = "password".toList ∧ Url.formText "ok" = "ok".toList := by decide
  obtain ⟨username, password, ok⟩ := names
  rw [form, loginForm, Url.writeForm]
  simp [button, username, password, ok]

/-- Two requests that log in, and that are the same but for the value of the password field. -/
structure HttpRequest.SameLogin (request other : HttpRequest) : Prop where
  login : ∃ scheme host, endpoint scheme host loginPath = .ok request.url
  forms : ∃ username password password', request.body = loginForm username password ∧
    other.body = loginForm username password'
  rest : other = { request with body := other.body }

/-- Requests that are the same, or the same but for the password that they log in with. -/
inductive HttpRequest.Alike (request : HttpRequest) : HttpRequest → Prop where
  | same : Alike request request
  | login {other : HttpRequest} : request.SameLogin other → Alike request other

inductive Output.Alike : Output → Output → Prop where
  | sent {id : TaskId} {request other : HttpRequest} : request.Alike other →
      Alike (.sent id request) (.sent id other)
  | finished {id : TaskId} {outcome : Outcome} : Alike (.finished id outcome) (.finished id outcome)

/-- What happens to two sessions, with the same name but perhaps other passwords. -/
inductive Event.Alike : Event → Event → Prop where
  | same {event : Event} : Alike event event
  | setCredentials {username password password' : String} :
      Alike (.setCredentials ⟨username, password⟩) (.setCredentials ⟨username, password'⟩)

/-! ## One step -/

def Context.withPassword (context : Context) (password : String) : Context :=
  { context with credentials := { context.credentials with password } }

namespace Session

def withPassword (s : Session) (password : String) : Session :=
  { s with context := s.context.withPassword password }

/-- Two sessions after a step, one of which has another password, have shown the same. -/
structure Alike (password : String) (moved other : Moved) : Prop where
  session : other.1 = moved.1.withPassword password
  outputs : List.Forall₂ Output.Alike moved.2 other.2

variable {s : Session} {password : String}

theorem finish_alike (id : TaskId) (outcome : Outcome) :
    Alike password (s.finish id outcome) ((s.withPassword password).finish id outcome) :=
  ⟨rfl, .cons .finished .nil⟩

theorem sendOwn_alike (id : TaskId) (goal : Goal) (request : Except SessionError HttpRequest) :
    Alike password (s.sendOwn id goal request)
      ((s.withPassword password).sendOwn id goal request) := by
  cases request with
  | ok request => exact ⟨rfl, .cons (.sent .same) .nil⟩
  | error error => exact finish_alike id _

theorem withToken_alike (id : TaskId) (goal : Goal) (token : String) :
    Alike password (s.withToken id goal token)
      ((s.withPassword password).withToken id goal token) := by
  cases goal with
  | login => exact finish_alike id _
  | token => exact finish_alike id _
  | post path body => exact sendOwn_alike id _ _
  | get path limit => exact sendOwn_alike id _ _
  | send request => exact sendOwn_alike id (.send request) (.ok request)

/-- The one place where the password goes. -/
theorem startLogin_alike (id : TaskId) (goal : Goal) :
    Alike password (s.startLogin id goal) ((s.withPassword password).startLogin id goal) := by
  simp only [startLogin, Context.loginRequest]
  have host : (s.withPassword password).context.host = s.context.host := rfl
  have scheme : (s.withPassword password).scheme = s.scheme := rfl
  rw [host, scheme]
  cases found : endpoint s.scheme s.context.host loginPath with
  | error text => exact finish_alike id _
  | ok url =>
    refine ⟨rfl, .cons (.sent (.login ⟨⟨_, _, found⟩, ?_, rfl⟩)) .nil⟩
    exact ⟨_, _, _, Credentials.form_eq _, Credentials.form_eq _⟩

theorem useCached_alike (id : TaskId) (goal : Goal) :
    Alike password (s.useCached id goal) ((s.withPassword password).useCached id goal) := by
  have same : (s.withPassword password).cachedToken = s.cachedToken := rfl
  unfold useCached
  rw [same]
  cases s.cachedToken with
  | some token => exact withToken_alike id goal token
  | none => exact startLogin_alike id goal

theorem queue_alike (id : TaskId) (goal : Goal) :
    Alike password (s.queue id goal) ((s.withPassword password).queue id goal) := by
  by_cases owns : (s.gate.enter id).owner = some id
  · have entered (s : Session) (owns : (s.gate.enter id).owner = some id) :
        s.queue id goal = { s with gate := s.gate.enter id }.useCached id goal := if_pos owns
    rw [entered s owns, entered (s.withPassword password) owns]
    exact useCached_alike id goal
  · have waits (s : Session) (owns : ¬ (s.gate.enter id).owner = some id) :
        s.queue id goal = ({ s with gate := s.gate.enter id }.setTask id ⟨goal, .queued⟩, []) :=
      if_neg owns
    rw [waits s owns, waits (s.withPassword password) owns]
    exact ⟨rfl, .nil⟩

theorem begin_alike (id : TaskId) (goal : Goal) :
    Alike password (s.begin id goal) ((s.withPassword password).begin id goal) := by
  have cached : (s.withPassword password).cachedToken = s.cachedToken := rfl
  have refresh : (s.withPassword password).refresh = s.refresh := rfl
  cases goal with
  | login => exact startLogin_alike id _
  | send request => exact sendOwn_alike id (.send request) (.ok request)
  | token | post path body | get path limit =>
    simp only [begin, cached, refresh]
    cases s.cachedToken with
    | some token => exact withToken_alike id _ token
    | none =>
      cases s.refresh with
      | concurrent => exact startLogin_alike id _
      | singleFlight => exact queue_alike id _

theorem poll_alike (id : TaskId) (task : Task) :
    Alike password (s.poll id task) ((s.withPassword password).poll id task) := by
  have gate : (s.withPassword password).gate = s.gate := rfl
  unfold poll
  rw [gate]
  cases task.stage with
  | fresh => exact begin_alike id task.goal
  | queued =>
    by_cases owns : s.gate.owner = some id
    · simp only [if_pos owns]
      exact useCached_alike id task.goal
    · simp only [if_neg owns]
      exact ⟨rfl, .nil⟩
  | loggingIn => exact ⟨rfl, .nil⟩
  | sending => exact ⟨rfl, .nil⟩

theorem answerLogin_alike (id : TaskId) (goal : Goal)
    (answer : Except TransportError HttpResponse) :
    Alike password (s.answerLogin id goal answer)
      ((s.withPassword password).answerLogin id goal answer) := by
  rw [answerLogin_eq, answerLogin_eq]
  cases loginResult answer with
  | error error => exact finish_alike (s := s.endLogin id (.error error)) id _
  | ok result =>
    cases goal with
    | login => exact finish_alike (s := s.endLogin id (.ok result)) id _
    | token | post path body | get path limit | send request =>
      exact withToken_alike (s := s.endLogin id (.ok result)) id _ _

theorem answer_alike (id : TaskId) (task : Task) (answer : Except TransportError HttpResponse) :
    Alike password (s.answer id task answer) ((s.withPassword password).answer id task answer) := by
  unfold Session.answer
  cases task.stage with
  | fresh => exact ⟨rfl, .nil⟩
  | queued => exact ⟨rfl, .nil⟩
  | loggingIn => exact answerLogin_alike id task.goal answer
  | sending => exact finish_alike id _

/-- Whatever happens to two sessions that differ in their passwords alone, they differ in nothing
else afterwards, and show the same. -/
theorem step_alike (s : Session) (password : String) {event other : Event}
    (h : event.Alike other) :
    ∃ password', Alike password' (s.step event) ((s.withPassword password).step other) := by
  have known (id : TaskId) : (s.withPassword password).task? id = s.task? id := rfl
  cases h with
  | @setCredentials username first second => exact ⟨second, rfl, .nil⟩
  | same =>
    cases event with
    | start id goal =>
      refine ⟨password, ?_⟩
      simp only [step, known]
      cases s.task? id <;> exact ⟨rfl, .nil⟩
    | poll id =>
      refine ⟨password, ?_⟩
      simp only [step, known]
      cases s.task? id with
      | some task => exact poll_alike id task
      | none => exact ⟨rfl, .nil⟩
    | answer id result =>
      refine ⟨password, ?_⟩
      simp only [step, known]
      cases s.task? id with
      | some task => exact answer_alike id task result
      | none => exact ⟨rfl, .nil⟩
    | drop id =>
      refine ⟨password, ?_⟩
      simp only [step, known]
      cases s.task? id <;> exact ⟨rfl, .nil⟩
    | redirected authority => exact ⟨password, rfl, .nil⟩
    | cookies holds => exact ⟨password, rfl, .nil⟩
    | setCredentials credentials => exact ⟨credentials.password, rfl, .nil⟩

end Session

/-! ## Connections -/

/-- A network that does not look into the forms of logins. -/
def Transport.Blind {σ : Type} (transport : Transport σ) : Prop :=
  ∀ network request other, HttpRequest.SameLogin request other →
    transport.serve network other = transport.serve network request

theorem Transport.Blind.serve_eq {σ : Type} {transport : Transport σ} (blind : transport.Blind)
    {request other : HttpRequest} (h : request.Alike other) (network : σ) :
    transport.serve network other = transport.serve network request := by
  cases h with
  | same => rfl
  | login h => exact blind network request other h

theorem ScriptedNetwork.transport_blind : transport.Blind := by
  intro network request other same
  rw [same.rest]
  rfl

namespace HttpNetwork

variable {σ : Type} {network : HttpNetwork σ}
  (h : ∀ state request body, network.exchange state { request with body } =
    network.exchange state request)

include h

theorem ask_blind (state : HttpState σ) (request : WireRequest) (body : Bytes) :
    network.ask state { request with body } = network.ask state request := by
  let carried := (state.jar.cookiesFor state.now request.url).map fun cookie =>
    (cookie.name, cookie.value)
  have asked : network.exchange state.network { request with cookies := carried, body } =
      network.exchange state.network { request with cookies := carried } :=
    h state.network { request with cookies := carried } body
  rcases exchanged : network.exchange state.network { request with cookies := carried } with
    ⟨next, answer⟩
  rw [exchanged] at asked
  unfold ask
  simp only [carried] at asked exchanged
  simp only [asked, exchanged]

/-- Where hosts do not look into bodies, the way of a request does not depend on its body. -/
theorem follow_blind (settings : TransportSettings) (limit redirects : Nat) (state : HttpState σ)
    (request : WireRequest) (body : Bytes) :
    network.follow settings limit redirects state { request with body } =
      network.follow settings limit redirects state request := by
  rcases asks : network.ask state request with ⟨next, answer⟩
  have asks' := (ask_blind h state request body).trans asks
  cases ends : answer.bind (·.target? request.url) with
  | none => rw [follow_end settings limit asks ends, follow_end settings limit asks' ends]
  | some target =>
    obtain ⟨answer, rfl, leads⟩ := Option.bind_eq_some_iff.mp ends
    cases redirects with
    | zero => rw [follow_zero settings limit asks leads, follow_zero settings limit asks' leads]
    | succ redirects =>
      have again : network.follow settings limit redirects next
            (WireRequest.redirected { request with body } answer.status target) =
          network.follow settings limit redirects next
            (request.redirected answer.status target) := by
        unfold WireRequest.redirected
        split
        · rfl
        · exact follow_blind settings limit redirects next { request with url := target } body
      rw [follow_hop settings limit asks leads, follow_hop settings limit asks' leads, again]

theorem transport_blind (settings : TransportSettings) : (network.transport settings).Blind := by
  intro state request other same
  have sent : network.send settings state other = network.send settings state request := by
    rw [same.rest]
    unfold send
    dsimp only
    split
    · exact follow_blind h settings _ _ state request.wire other.body
    · rfl
  simp only [transport, sent]

end HttpNetwork

namespace Connection

variable {σ : Type} {connection other : Connection σ}

/-- A request that waits for its answer in each of two connections. -/
def Waiting (entry other : TaskId × HttpRequest) : Prop := other.1 = entry.1 ∧ entry.2.Alike other.2

/-- Two connections that differ in the passwords of their sessions alone. -/
structure Alike (connection other : Connection σ) : Prop where
  session : ∃ password, other.session = connection.session.withPassword password
  network : other.network = connection.network
  unanswered : List.Forall₂ Waiting connection.unanswered other.unanswered

/-- Two connections after something have shown the same. -/
def After.Alike (after other : After σ) : Prop :=
  after.1.Alike other.1 ∧ List.Forall₂ Output.Alike after.2 other.2

theorem requests_alike {outputs others : List Output}
    (h : List.Forall₂ Output.Alike outputs others) :
    List.Forall₂ Waiting (requests outputs) (requests others) := by
  induction h with
  | nil => exact .nil
  | cons first _ ih =>
    cases first with
    | sent alike => exact .cons ⟨rfl, alike⟩ ih
    | finished => exact ih

theorem lookup_alike {entries others : List (TaskId × HttpRequest)}
    (h : List.Forall₂ Waiting entries others) (id : TaskId) :
    Option.Rel HttpRequest.Alike (entries.lookup id) (others.lookup id) := by
  induction h with
  | nil => exact .none
  | @cons entry other _ _ first _ ih =>
    obtain ⟨task, request⟩ := entry
    obtain ⟨task', request'⟩ := other
    obtain ⟨rfl, alike⟩ := first
    rw [List.lookup_cons, List.lookup_cons]
    cases id == task' with
    | true => exact .some alike
    | false => exact ih

theorem filter_alike {entries others : List (TaskId × HttpRequest)}
    (h : List.Forall₂ Waiting entries others) (id : TaskId) :
    List.Forall₂ Waiting (entries.filter fun entry => entry.1 ≠ id)
      (others.filter fun entry => entry.1 ≠ id) := by
  induction h with
  | nil => exact .nil
  | @cons entry other _ _ first _ ih =>
    have same : other.1 = entry.1 := first.1
    rw [List.filter_cons, List.filter_cons, same]
    split
    · exact .cons first ih
    · exact ih

theorem Alike.update (h : connection.Alike other) (network : σ)
    {entries others : List (TaskId × HttpRequest)} (waiting : List.Forall₂ Waiting entries others) :
    Alike { connection with network, unanswered := entries }
      { other with network, unanswered := others } :=
  ⟨h.session, rfl, waiting⟩

theorem feed_alike (h : connection.Alike other) {event event' : Event} (h' : event.Alike event') :
    After.Alike (connection.feed event) (other.feed event') := by
  obtain ⟨password, session⟩ := h.session
  obtain ⟨password', moved⟩ := Session.step_alike connection.session password h'
  rw [← session] at moved
  exact ⟨⟨⟨password', moved.session⟩, h.network,
    List.rel_append (requests_alike moved.outputs) h.unanswered⟩, moved.outputs⟩

theorem note_alike (h : connection.Alike other) (events : List Event) :
    (connection.note events).Alike (other.note events) := by
  induction events generalizing connection other with
  | nil => exact h
  | cons event rest ih => exact ih (feed_alike h .same).1

theorem serve_alike {transport : Transport σ} (blind : transport.Blind) (h : connection.Alike other)
    (id : TaskId) :
    After.Alike (connection.serve transport id) (other.serve transport id) := by
  have waiting := lookup_alike h.unanswered id
  unfold serve
  generalize connection.unanswered.lookup id = mine at waiting
  generalize other.unanswered.lookup id = theirs at waiting
  cases waiting with
  | none => exact ⟨h, .nil⟩
  | @some request _ alike =>
    simp only [h.network, blind.serve_eq alike]
    cases transport.serve connection.network request with
    | none => exact ⟨h, .nil⟩
    | some served =>
      exact feed_alike (note_alike (h.update _ (filter_alike h.unanswered id)) _) .same

theorem poll_alike {transport : Transport σ} (blind : transport.Blind) (h : connection.Alike other)
    (id : TaskId) :
    After.Alike (connection.poll transport id) (other.poll transport id) := by
  have first : After.Alike (connection.feed (.poll id)) (other.feed (.poll id)) :=
    feed_alike h .same
  have second := serve_alike blind first.1 id
  have third := serve_alike blind second.1 id
  exact ⟨third.1, List.rel_append (List.rel_append first.2 second.2) third.2⟩

theorem drop_alike (h : connection.Alike other) (id : TaskId) :
    (connection.drop id).Alike (other.drop id) := by
  have noted := note_alike h [.drop id]
  exact ⟨noted.session, noted.network, filter_alike noted.unanswered id⟩

theorem onNetwork_alike (transport : Transport σ) (h : connection.Alike other) (change : σ → σ) :
    (connection.onNetwork transport change).Alike (other.onNetwork transport change) := by
  unfold onNetwork
  rw [h.network]
  exact note_alike (h.update _ h.unanswered) _

theorem isLive_alike (h : connection.Alike other) (id : TaskId) :
    other.isLive id = connection.isLive id := by
  obtain ⟨password, session⟩ := h.session
  rw [isLive, isLive, session]
  rfl

end Connection

/-! ## Watches -/

/-- Operations under watch are given up alike. -/
theorem Watch.poll_alike {S : Type} {states : S → S → Prop} {run : S → S × List Output}
    {drop : S → S} {isLive : S → Bool}
    (runs : ∀ s s', states s s' → states (run s).1 (run s').1 ∧
      List.Forall₂ Output.Alike (run s).2 (run s').2)
    (drops : ∀ s s', states s s' → states (drop s) (drop s'))
    (lives : ∀ s s', states s s' → isLive s' = isLive s) (watch : Watch) {s s' : S}
    (h : states s s') :
    states (watch.poll run drop isLive s).1 (watch.poll run drop isLive s').1 ∧
      List.Forall₂ Output.Alike (watch.poll run drop isLive s).2.1
        (watch.poll run drop isLive s').2.1 ∧
      (watch.poll run drop isLive s').2.2 = (watch.poll run drop isLive s).2.2 := by
  obtain ⟨next, outputs⟩ := runs s s' h
  unfold Watch.poll
  cases watch.before with
  | some error => exact ⟨drops s s' h, .nil, rfl⟩
  | none =>
    cases watch.after with
    | none => exact ⟨next, outputs, rfl⟩
    | some error =>
      simp only [lives _ _ next]
      split
      · exact ⟨drops _ _ next, outputs, rfl⟩
      · exact ⟨next, outputs, rfl⟩

/-! ## Runs -/

theorem Session.view_withPassword (s : Session) (password : String) :
    (s.withPassword password).view = s.view := rfl

structure Shown.Alike (shown other : Shown) : Prop where
  view : other.view = shown.view
  outputs : List.Forall₂ Output.Alike shown.outputs other.outputs
  gaveUp : other.gaveUp = shown.gaveUp

namespace Machine

variable {S A : Type}

/-- Two states show the same under actions that are alike, and stay alike. -/
def InStep (machine : Machine S A) (states : S → S → Prop) (actions : A → A → Prop) : Prop :=
  ∀ s s' action action', states s s' → actions action action' →
    states (machine.act s action).1 (machine.act s' action').1 ∧
      List.Forall₂ Output.Alike (machine.act s action).2.1 (machine.act s' action').2.1 ∧
      (machine.act s' action').2.2 = (machine.act s action).2.2

theorem trace_alike {machine : Machine S A} {states : S → S → Prop} {actions : A → A → Prop}
    (views : ∀ s s', states s s' → (machine.session s').view = (machine.session s).view)
    (inStep : machine.InStep states actions) {s s' : S} (alike : states s s')
    {script other : List A} (same : List.Forall₂ actions script other) :
    List.Forall₂ Shown.Alike (machine.trace s script) (machine.trace s' other) := by
  induction same generalizing s s' with
  | nil => exact .nil
  | cons first _ ih =>
    obtain ⟨next, outputs, gaveUp⟩ := inStep _ _ _ _ alike first
    exact .cons ⟨views _ _ next, outputs, gaveUp⟩ (ih next)

end Machine

inductive Session.Action.Alike : Session.Action → Session.Action → Prop where
  | event {event other : Event} : event.Alike other → Alike (.event event) (.event other)
  | watched {watch : Watch} {id : TaskId} : Alike (.watched watch id) (.watched watch id)

inductive Connection.Action.Alike {σ : Type} :
    Connection.Action σ → Connection.Action σ → Prop where
  | event {event other : Event} : event.Alike other → Alike (.event event) (.event other)
  | same {action : Connection.Action σ} : Alike action action

/-- Sessions that differ in their passwords alone move in step. -/
theorem Session.machine_inStep :
    machine.InStep (fun s s' => ∃ password, s' = s.withPassword password) Action.Alike := by
  have steps (s s' : Session) (h : ∃ password, s' = s.withPassword password)
      {event event' : Event} (h' : event.Alike event') :
      (∃ password, (s'.step event').1 = (s.step event).1.withPassword password) ∧
        List.Forall₂ Output.Alike (s.step event).2 (s'.step event').2 := by
    obtain ⟨password, rfl⟩ := h
    obtain ⟨password', moved⟩ := step_alike s password h'
    exact ⟨⟨password', moved.session⟩, moved.outputs⟩
  rintro s s' _ _ h (h' | _)
  · exact ⟨(steps s s' h h').1, (steps s s' h h').2, rfl⟩
  · refine Watch.poll_alike (fun s s' h => steps s s' h .same)
      (fun s s' h => (steps s s' h .same).1) ?_ _ h
    rintro s _ ⟨password, rfl⟩
    rfl

/-- So do connections, over a network that does not look into the forms of logins. -/
theorem Connection.machine_inStep {σ : Type} {transport : Transport σ} (blind : transport.Blind) :
    (machine transport).InStep Alike Action.Alike := by
  rintro connection other _ _ h (h' | _)
  · exact ⟨(feed_alike h h').1, (feed_alike h h').2, rfl⟩
  · rename_i action
    cases action with
    | event event => exact ⟨(feed_alike h .same).1, (feed_alike h .same).2, rfl⟩
    | poll id => exact ⟨(poll_alike blind h id).1, (poll_alike blind h id).2, rfl⟩
    | watched watch id =>
      refine Watch.poll_alike ?_ ?_ ?_ watch h
      · exact fun _ _ h => poll_alike blind h id
      · exact fun _ _ h => drop_alike h id
      · exact fun _ _ h => isLive_alike h id
    | drop id => exact ⟨drop_alike h id, .nil, rfl⟩
    | network change => exact ⟨onNetwork_alike transport h change, .nil, rfl⟩

/-- Two sessions are opened alike but for their passwords, and the same happens to them, but for
the passwords of credentials that are set. They show the same after every action: what they are
doing, their host, the result of the last login and the text of their context, and the requests and
results, but for the value of the password field in the forms of logins. The same holds of
connections over a network whose answers do not depend on that value. -/
theorem password_unseen (scheme : Scheme) (refresh : Refresh)
    (host username password password' : String) :
    (∀ (holds : Url → Bool) (script other : List Session.Action),
      List.Forall₂ Session.Action.Alike script other →
      List.Forall₂ Shown.Alike
        (Session.machine.trace
          (Session.opened scheme refresh host ⟨username, password⟩ holds) script)
        (Session.machine.trace
          (Session.opened scheme refresh host ⟨username, password'⟩ holds) other)) ∧
    ∀ {σ : Type} (transport : Transport σ) (network : σ), transport.Blind →
      ∀ script other : List (Connection.Action σ),
        List.Forall₂ Connection.Action.Alike script other →
        List.Forall₂ Shown.Alike
          ((Connection.machine transport).trace
            { session := Session.opened scheme refresh host ⟨username, password⟩
                (transport.holds network)
              network } script)
          ((Connection.machine transport).trace
            { session := Session.opened scheme refresh host ⟨username, password'⟩
                (transport.holds network)
              network } other) := by
  constructor
  · intro holds script other same
    refine Machine.trace_alike ?_ Session.machine_inStep ⟨password', rfl⟩ same
    rintro s _ ⟨password, rfl⟩
    exact s.view_withPassword password
  · intro σ transport network blind script other same
    have opened : Connection.Alike
        { session := Session.opened scheme refresh host ⟨username, password⟩
            (transport.holds network), network }
        { session := Session.opened scheme refresh host ⟨username, password'⟩
            (transport.holds network), network } := ⟨⟨password', rfl⟩, rfl, .nil⟩
    refine Machine.trace_alike ?_ (Connection.machine_inStep blind) opened same
    rintro connection other h
    obtain ⟨password, session⟩ := h.session
    show other.session.view = connection.session.view
    rw [session, Session.view_withPassword]

/-- The bodies of the requests that have been sent. -/
def Shown.bodies (trace : List Shown) : List Bytes :=
  trace.flatMap fun shown => (Connection.requests shown.outputs).map (·.2.body)

/-- Two logins with a new password in between, by events alone and over a network. -/
theorem password_unseen_two_logins :
    let events (password : String) : List Session.Action :=
      [.event (.start 0 .login), .event (.poll 0), .event (.setCredentials ⟨"u", password⟩),
        .event (.start 1 .token), .event (.poll 1), .watched (.token true) 0]
    let script (password : String) : List (Connection.Action ScriptedNetwork) :=
      [.event (.start 0 .login), .poll 0, .event (.setCredentials ⟨"u", password⟩),
        .event (.start 1 .token), .watched (.deadline true) 1]
    let start (password : String) : Session :=
      .opened .https .concurrent "h" ⟨"u", password⟩ (ScriptedNetwork.transport.holds {})
    let alone (first second : String) := Session.machine.trace (start first) (events second)
    let connected (first second : String) :=
      (Connection.machine ScriptedNetwork.transport).trace
        { session := start first, network := {} } (script second)
    List.Forall₂ Shown.Alike (alone "a" "b") (alone "c" "d") ∧
      List.Forall₂ Shown.Alike (connected "a" "b") (connected "c" "d") ∧
      Shown.bodies (alone "a" "b") = [loginForm "u" "a", loginForm "u" "b"] ∧
      Shown.bodies (connected "c" "d") = [loginForm "u" "c", loginForm "u" "d"] := by
  intro events script start alone connected
  obtain ⟨sessions, connections⟩ := password_unseen .https .concurrent "h" "u" "a" "c"
  have same_events : List.Forall₂ Session.Action.Alike (events "b") (events "d") :=
    .cons (.event .same) <| .cons (.event .same) <| .cons (.event .setCredentials) <|
      .cons (.event .same) <| .cons (.event .same) <| .cons .watched .nil
  have same_script : List.Forall₂ Connection.Action.Alike (script "b") (script "d") :=
    .cons .same <| .cons .same <| .cons (.event .setCredentials) <| .cons .same <| .cons .same .nil
  refine ⟨sessions _ _ _ same_events,
    connections _ _ ScriptedNetwork.transport_blind _ _ same_script, ?_, ?_⟩
  · decide +kernel
  · decide +kernel

end WlanAdmin
