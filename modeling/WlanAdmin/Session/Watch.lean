import WlanAdmin.Session.Step

/-!
# WlanAdmin.Session.Watch

Giving up on an operation. A caller may watch a token that cancels the operation, or a deadline. A
token is looked at before the operation runs, so one that has fired already keeps it from running
at all; a deadline is looked at once the operation has to wait. Either way the operation is dropped.
-/

namespace WlanAdmin

inductive Watch where
  | token (fired : Bool)
  | deadline (elapsed : Bool)
  deriving DecidableEq, Repr

namespace Watch

/-- Why the operation is given up before it runs. -/
def before : Watch → Option TransportError
  | token true => some .cancelled
  | token false | deadline _ => none

/-- Why the operation is given up once it waits. -/
def after : Watch → Option TransportError
  | deadline true => some .timedOut
  | deadline false | token _ => none

/-- Runs an operation under watch. `isLive` says whether it still waits after it has run. The last
part of the result is there where the operation was given up. -/
def poll {S : Type} (watch : Watch) (run : S → S × List Output) (drop : S → S)
    (isLive : S → Bool) (state : S) : S × List Output × Option TransportError :=
  match watch.before with
  | some error => (drop state, [], some error)
  | none =>
    let (state, outputs) := run state
    match watch.after with
    | some error =>
      if isLive state then (drop state, outputs, some error) else (state, outputs, none)
    | none => (state, outputs, none)

end Watch

/-- Runs an operation of a session under watch. -/
def Session.pollWatched (session : Session) (watch : Watch) (id : TaskId) :
    Session × List Output × Option TransportError :=
  watch.poll (·.step (.poll id)) (fun session => (session.step (.drop id)).1)
    (fun session => (session.task? id).isSome) session

end WlanAdmin
