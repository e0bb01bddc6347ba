import WlanAdmin.Client.Error
import WlanAdmin.Session.Watch

/-!
# WlanAdmin.Client.Connection

A session together with the network that answers it. An operation that runs has its requests
answered as soon as the network can, and the redirects that an answer took are reported before it.

* `Transport` : how a network answers, and which cookies it holds.
* `Connection.poll` : runs an operation until it ends or the network makes it wait.
* `Connection.runWatched` : what the caller of an operation has, who may give it up.
-/

namespace WlanAdmin

/-- What becomes of a request. -/
structure Served (σ : Type) where
  network : σ
  /-- The authorities that redirects led to, in order. -/
  redirects : List String := []
  answer : Except TransportError HttpResponse

structure Transport (σ : Type) where
  /-- Answers a request; `none` while it has to wait. -/
  serve : σ → HttpRequest → Option (Served σ)
  /-- Whether there is a cookie for a URL. -/
  holds : σ → Url → Bool

structure Connection (σ : Type) where
  session : Session
  network : σ
  /-- Requests that have been sent and wait for their answer. -/
  unanswered : List (TaskId × HttpRequest) := []

namespace Connection

variable {σ : Type}

/-- The connection after something, and what that shows. -/
abbrev After (σ : Type) := Connection σ × List Output

/-- The requests among what was shown. -/
def requests (outputs : List Output) : List (TaskId × HttpRequest) :=
  outputs.filterMap fun output =>
    match output with
    | .sent id request => some (id, request)
    | .finished .. => none

/-- Lets an event happen to the session. -/
def feed (connection : Connection σ) (event : Event) : After σ :=
  let (session, outputs) := connection.session.step event
  ({ connection with session, unanswered := requests outputs ++ connection.unanswered }, outputs)

/-- Lets events happen to the session that show nothing. -/
def note (connection : Connection σ) (events : List Event) : Connection σ :=
  events.foldl (fun connection event => (connection.feed event).1) connection

/-- Changes the network. -/
def onNetwork (transport : Transport σ) (change : σ → σ) (connection : Connection σ) :
    Connection σ :=
  let network := change connection.network
  { connection with network }.note [.cookies (transport.holds network)]

/-- Has the network answer the request that an operation has sent, if it can. -/
def serve (transport : Transport σ) (connection : Connection σ) (id : TaskId) : After σ :=
  match connection.unanswered.lookup id with
  | none => (connection, [])
  | some request =>
    match transport.serve connection.network request with
    | none => (connection, [])
    | some served =>
      let connection := { connection with
        network := served.network
        unanswered := connection.unanswered.filter fun entry => entry.1 ≠ id }
      let connection := connection.note
        (served.redirects.map Event.redirected ++ [.cookies (transport.holds served.network)])
      connection.feed (.answer id served.answer)

/-- Runs an operation until it ends or has to wait. It sends two requests at most, so two answers
are enough. -/
def poll (transport : Transport σ) (id : TaskId) (connection : Connection σ) : After σ :=
  let (connection, first) := connection.feed (.poll id)
  let (connection, second) := connection.serve transport id
  let (connection, third) := connection.serve transport id
  (connection, first ++ second ++ third)

/-- Drops an operation and its request. -/
def drop (id : TaskId) (connection : Connection σ) : Connection σ :=
  let connection := connection.note [.drop id]
  { connection with unanswered := connection.unanswered.filter fun entry => entry.1 ≠ id }

/-- Whether an operation is under way. -/
def isLive (id : TaskId) (connection : Connection σ) : Bool :=
  (connection.session.task? id).isSome

/-- Runs an operation under watch. -/
def pollWatched (transport : Transport σ) (watch : Watch) (id : TaskId)
    (connection : Connection σ) : Connection σ × List Output × Option TransportError :=
  watch.poll (poll transport id) (drop id) (isLive id) connection

/-- What the caller of an operation has, if anything: that it was given up, or what `finish` makes
of its outcome. -/
def result? {α : Type} (finish : Outcome → Except ClientError α) (id : TaskId)
    (outputs : List Output) : Option TransportError → Option (Except ClientError α)
  | some gaveUp => some (.error (.transport gaveUp))
  | none => outputs.findSome? fun output =>
    match output with
    | .finished other outcome => if other = id then some (finish outcome) else none
    | .sent .. => none

/-- Runs an operation under watch, for a caller who has it give a result. -/
def runWatched {α : Type} (transport : Transport σ) (watch : Watch) (id : TaskId)
    (finish : Outcome → Except ClientError α) (connection : Connection σ) :
    Connection σ × List Output × Option (Except ClientError α) :=
  let (connection, outputs, gaveUp) := connection.pollWatched transport watch id
  (connection, outputs, result? finish id outputs gaveUp)

end Connection
end WlanAdmin
