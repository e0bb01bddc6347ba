import WlanAdmin.Session.Basic

/-!
# WlanAdmin.Session.Step

How a session moves on. Everything that happens to it is an event: an operation is started, run as
far as it can go, given an answer or dropped; a redirect is reported, cookies change, or the
credentials are replaced. A step gives the session after it, and what it sends and finishes, in
order.

Whatever an operation does between two answers is one step, so requests are made of what the session
knows at the moment they are sent.
-/

namespace WlanAdmin

inductive Event where
  | start (id : TaskId) (goal : Goal)
  /-- Runs an operation until it ends or has to wait. -/
  | poll (id : TaskId)
  /-- The answer to the request an operation has sent. -/
  | answer (id : TaskId) (answer : Except TransportError HttpResponse)
  | drop (id : TaskId)
  /-- A redirect leads to another authority. -/
  | redirected (authority : String)
  /-- For which URLs there is a cookie from now on. -/
  | cookies (holds : Url → Bool)
  | setCredentials (credentials : Credentials)

/-- What a step shows. -/
inductive Output where
  | sent (id : TaskId) (request : HttpRequest)
  | finished (id : TaskId) (outcome : Outcome)
  deriving Repr

/-- The session after a step, and what the step shows. -/
abbrev Moved := Session × List Output

namespace Session

/-- Ends an operation. -/
def finish (session : Session) (id : TaskId) (outcome : Outcome) : Moved :=
  (session.eraseTask id, [.finished id outcome])

/-- Sends the own request of an operation. -/
def sendOwn (session : Session) (id : TaskId) (goal : Goal)
    (request : Except SessionError HttpRequest) : Moved :=
  match request with
  | .ok request => (session.setTask id ⟨goal, .sending⟩, [.sent id request])
  | .error error => session.finish id (.error error)

/-- Goes on with a token. -/
def withToken (session : Session) (id : TaskId) (goal : Goal) (token : String) : Moved :=
  match goal with
  | .post path body => session.sendOwn id goal <|
      (session.url path).map fun url => (HttpRequest.post url body).withToken token
  | .get path limit => session.sendOwn id goal <|
      (session.url path).map fun url => ((HttpRequest.get url).withToken token).withLimit limit
  | .send request => session.sendOwn id goal (.ok request)
  | .login | .token => session.finish id (.ok (.token token))

/-- Logs in. Where no request can be made, the operation ends and leaves the gate. -/
def startLogin (session : Session) (id : TaskId) (goal : Goal) : Moved :=
  match session.context.loginRequest session.scheme with
  | .ok request =>
    ({ session.setTask id ⟨goal, .loggingIn⟩ with
        loginsInFlight := session.loginsInFlight + 1 },
      [.sent id request])
  | .error error =>
    { session with gate := session.gate.leave id }.finish id (.error (.transport error))

/-- Takes the cached token and leaves the gate, or logs in. -/
def useCached (session : Session) (id : TaskId) (goal : Goal) : Moved :=
  match session.cachedToken with
  | some token => { session with gate := session.gate.leave id }.withToken id goal token
  | none => session.startLogin id goal

/-- Comes to the gate without a token. -/
def queue (session : Session) (id : TaskId) (goal : Goal) : Moved :=
  let session := { session with gate := session.gate.enter id }
  if session.gate.owner = some id then session.useCached id goal
  else (session.setTask id ⟨goal, .queued⟩, [])

/-- The first run of an operation. -/
def begin (session : Session) (id : TaskId) (goal : Goal) : Moved :=
  match goal with
  | .login => session.startLogin id goal
  | .send request => session.sendOwn id goal (.ok request)
  | .token | .post .. | .get .. =>
    match session.cachedToken, session.refresh with
    | some token, _ => session.withToken id goal token
    | none, .concurrent => session.startLogin id goal
    | none, .singleFlight => session.queue id goal

/-- Runs an operation. One that waits for an answer, or for the gate, stays where it is. -/
def poll (session : Session) (id : TaskId) (task : Task) : Moved :=
  match task.stage with
  | .fresh => session.begin id task.goal
  | .queued =>
    if session.gate.owner = some id then session.useCached id task.goal else (session, [])
  | .loggingIn | .sending => (session, [])

/-- The end of a login: its result is stored as a whole, or nothing is. -/
def endLogin (session : Session) (id : TaskId) (result : Except SessionError LoginResult) :
    Session :=
  { session with
    context := match result with
      | .ok result => { session.context with login := some result }
      | .error _ => session.context
    loginsInFlight := session.loginsInFlight - 1
    gate := session.gate.leave id }

/-- The answer to a login. -/
def answerLogin (session : Session) (id : TaskId) (goal : Goal)
    (answer : Except TransportError HttpResponse) : Moved :=
  let result := match answer with
    | .ok response => readLogin response.body
    | .error error => .error (.transport error)
  let session := session.endLogin id result
  match result, goal with
  | .error error, _ => session.finish id (.error error)
  | .ok result, .login => session.finish id (.ok (.login result))
  | .ok result, _ => session.withToken id goal result.csrfToken

/-- What an answer to the own request of an operation gives. -/
def outcomeOf (goal : Goal) (answer : Except TransportError HttpResponse) : Outcome :=
  match answer with
  | .error error => .error (.transport error)
  | .ok response =>
    let body (path : String) : Outcome :=
      if response.isOk then .ok (.body response.body)
      else .error (.transport (.status response.status path))
    match goal with
    | .post path _ => body path
    | .get path _ => body path
    | .login | .token | .send _ => .ok (.response response)

/-- The answer to the request an operation waits for; others wait for none. -/
def answer (session : Session) (id : TaskId) (task : Task)
    (answer : Except TransportError HttpResponse) : Moved :=
  match task.stage with
  | .loggingIn => session.answerLogin id task.goal answer
  | .sending => session.finish id (outcomeOf task.goal answer)
  | .fresh | .queued => (session, [])

/-- Drops an operation: a login of its own is over, and the gate passes on. -/
def drop (session : Session) (id : TaskId) (task : Task) : Session :=
  { session.eraseTask id with
    loginsInFlight :=
      if task.stage = .loggingIn then session.loginsInFlight - 1 else session.loginsInFlight
    gate := session.gate.leave id }

/-- What an event does to a session. An operation that is not under way is not affected by any,
and a start in its place drops one that is. -/
def step (session : Session) : Event → Moved
  | .start id goal =>
    let session := match session.task? id with
      | some task => session.drop id task
      | none => session
    (session.setTask id { goal }, [])
  | .poll id =>
    match session.task? id with
    | some task => session.poll id task
    | none => (session, [])
  | .answer id result =>
    match session.task? id with
    | some task => session.answer id task result
    | none => (session, [])
  | .drop id =>
    match session.task? id with
    | some task => (session.drop id task, [])
    | none => (session, [])
  | .redirected authority =>
    ({ session with context := session.context.redirected authority }, [])
  | .cookies holds => ({ session with holds }, [])
  | .setCredentials credentials =>
    ({ session with context := { session.context with credentials } }, [])

/-- What a sequence of events does to a session. -/
def run (session : Session) : List Event → Moved
  | [] => (session, [])
  | event :: rest =>
    let (session, outputs) := session.step event
    let (session, later) := session.run rest
    (session, outputs ++ later)

end Session
end WlanAdmin
