import WlanAdmin.Client.Connection

/-!
# WlanAdmin.Proofs.Client.Script

Scripts for sessions and connections, and what is to be seen while they are carried out.

* `Session.View`, `Shown` : what a session lets be seen, and an action shows.
* `Machine`               : what a script acts on; its `run` and its `trace`.
* `Session.machine`       : a session on its own, to which answers are events like all else.
* `Connection.machine`    : a session that its network answers.
-/

namespace WlanAdmin

/-- What a session lets be seen. -/
structure Session.View where
  state : SessionState
  host : String
  login : Option LoginResult
  /-- The text that a context is shown as. -/
  text : String
  deriving DecidableEq

def Session.view (s : Session) : Session.View :=
  ⟨s.state, s.context.host, s.context.login, s.context.describe⟩

/-- What is to be seen after an action: the session, the requests and results that the action has
shown, and whether an operation was given up. -/
structure Shown where
  view : Session.View
  outputs : List Output
  gaveUp : Option TransportError

/-- A machine with a session in it, and what acts on it. -/
structure Machine (S A : Type) where
  act : S → A → S × List Output × Option TransportError
  session : S → Session

namespace Machine

variable {S A : Type}

/-- The state of a machine after a script. -/
def run (machine : Machine S A) : S → List A → S
  | s, [] => s
  | s, action :: rest => machine.run (machine.act s action).1 rest

/-- What a machine shows under a script, action by action. -/
def trace (machine : Machine S A) : S → List A → List Shown
  | _, [] => []
  | s, action :: rest =>
    let (next, outputs, gaveUp) := machine.act s action
    ⟨(machine.session next).view, outputs, gaveUp⟩ :: machine.trace next rest

/-- What each action of a script preserves, the script preserves. -/
theorem run_invariant {machine : Machine S A} {P : S → Prop} {script : List A}
    (kept : ∀ action ∈ script, ∀ s, P s → P (machine.act s action).1) {s : S} (h : P s) :
    P (machine.run s script) := by
  induction script generalizing s with
  | nil => exact h
  | cons action rest ih =>
    obtain ⟨first, kept⟩ := List.forall_mem_cons.mp kept
    exact ih kept (first s h)

end Machine

/-- What happens to a session on its own: an event, or a run of an operation under watch. -/
inductive Session.Action where
  | event (event : Event)
  | watched (watch : Watch) (id : TaskId)

def Session.machine : Machine Session Session.Action where
  act s
    | .event event =>
      let (next, outputs) := s.step event
      (next, outputs, none)
    | .watched watch id => s.pollWatched watch id
  session s := s

/-- What happens to a connection. -/
inductive Connection.Action (σ : Type) where
  /-- An operation is started, the credentials are replaced, or any other event. -/
  | event (event : Event)
  | poll (id : TaskId)
  | watched (watch : Watch) (id : TaskId)
  | drop (id : TaskId)
  | network (change : σ → σ)

def Connection.machine {σ : Type} (transport : Transport σ) :
    Machine (Connection σ) (Connection.Action σ) where
  act connection
    | .event event =>
      let (next, outputs) := connection.feed event
      (next, outputs, none)
    | .poll id =>
      let (next, outputs) := connection.poll transport id
      (next, outputs, none)
    | .watched watch id => connection.pollWatched transport watch id
    | .drop id => (connection.drop id, [], none)
    | .network change => (connection.onNetwork transport change, [], none)
  session connection := connection.session

end WlanAdmin
