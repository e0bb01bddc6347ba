import WlanAdmin.Session.Gate
import WlanAdmin.Session.Login

/-!
# WlanAdmin.Session.Basic

A session: what it knows of the controller, and the operations that are under way. An operation
that needs a token takes the cached one, or logs in first; operations that find no token at the same
time either all log in, or let one log in for all of them.

* `Goal`, `Stage`, `Task` : what an operation is for, and how far it is.
* `Session.cachedToken` : the token that operations use without logging in.
* `Session.state` : what the session is doing.
-/

namespace WlanAdmin

/-- What an operation is for. -/
inductive Goal where
  /-- To log in, whether or not a token is cached. -/
  | login
  /-- To have a token. -/
  | token
  /-- To send a body to a path, with a token. -/
  | post (path : String) (body : Bytes)
  /-- To fetch a path, with a token, reading at most so many octets. -/
  | get (path : String) (limit : Nat)
  /-- To send a request as it is. -/
  | send (request : HttpRequest)
  deriving DecidableEq, Repr

/-- What an operation gives. -/
inductive Gain where
  | login (result : LoginResult)
  | token (token : String)
  /-- The body of an answer with status 200. -/
  | body (body : Bytes)
  /-- An answer of any status. -/
  | response (response : HttpResponse)
  deriving DecidableEq, Repr

/-- How an operation ends. -/
abbrev Outcome := Except SessionError Gain

/-- How far an operation is. -/
inductive Stage where
  /-- It has not run yet. -/
  | fresh
  /-- It waits at the gate, or has been handed it and has not run since. -/
  | queued
  /-- Its login is on its way. -/
  | loggingIn
  /-- Its own request is on its way. -/
  | sending
  deriving DecidableEq, Repr

structure Task where
  goal : Goal
  stage : Stage := .fresh
  deriving DecidableEq, Repr

/-- What operations do that find no token. -/
inductive Refresh where
  /-- Each logs in. -/
  | concurrent
  /-- One logs in, and the others wait for its token. -/
  | singleFlight
  deriving DecidableEq, Repr

structure Session where
  scheme : Scheme
  refresh : Refresh
  context : Context
  /-- Whether there is a cookie for a URL. -/
  holds : Url → Bool := fun _ => false
  /-- How many logins are on their way. -/
  loginsInFlight : Nat := 0
  gate : Gate := {}
  tasks : List (TaskId × Task) := []

namespace Session

/-- The token of the last login, as long as the current host holds a cookie. -/
def cachedToken (session : Session) : Option String :=
  session.context.cachedToken session.scheme session.holds

/-- What a session is doing. -/
def state (session : Session) : SessionState :=
  if 0 < session.loginsInFlight then .authenticating
  else if session.cachedToken.isSome then .authenticated
  else .unauthenticated

/-- The URL of a path on the current host. -/
def url (session : Session) (path : String) : Except SessionError Url :=
  match endpoint session.scheme session.context.host path with
  | .ok url => .ok url
  | .error text => .error (.transport (.invalidUrl text))

def task? (session : Session) (id : TaskId) : Option Task := session.tasks.lookup id

/-- Forgets a task. -/
def eraseTask (session : Session) (id : TaskId) : Session :=
  { session with tasks := session.tasks.filter fun entry => entry.1 ≠ id }

/-- Notes how far a task is. -/
def setTask (session : Session) (id : TaskId) (task : Task) : Session :=
  { session with tasks := (id, task) :: (session.eraseTask id).tasks }

end Session
end WlanAdmin
