import WlanAdmin.Proofs.Page.Token
import WlanAdmin.Proofs.Session.Moves

/-!
# WlanAdmin.Proofs.Session.History

What a session knows is what has happened to it: the host of the last redirect, the credentials that
were set last, and the result of the login that succeeded last, each as a whole.

* `gains` : the login that succeeds with an event.
* `Move.context_eq` : what one event makes of the context.
* `logins`, `run_login` : the stored login is the last one of the run.
* `run_context` : the whole context after a run.
-/

namespace WlanAdmin

/-- The host that an event moves a session to. -/
def Event.host? : Event → Option String
  | .redirected authority => some authority
  | _ => none

/-- The credentials that an event sets. -/
def Event.credentials? : Event → Option Credentials
  | .setCredentials credentials => some credentials
  | _ => none

namespace Session

/-- The result of the login that succeeds with an event. -/
def gains (s : Session) : Event → Option LoginResult
  | .answer id answer =>
    match s.task? id with
    | some ⟨_, .loggingIn⟩ => (loginResult answer).toOption
    | _ => none
  | _ => none

theorem Idle.gains_eq {s : Session} {event : Event} (h : s.Idle event) : s.gains event = none := by
  cases event with
  | answer id answer =>
    simp only [gains]
    split
    · rename_i ht
      exact absurd rfl (h _ ht).1
    · rfl
  | _ => rfl

theorem Idle.context_eq {s : Session} {event : Event} (h : s.Idle event) :
    s.context = ⟨event.host?.getD s.context.host, event.credentials?.getD s.context.credentials,
      (s.gains event).or s.context.login⟩ := by
  rw [h.gains_eq]
  cases event with
  | redirected authority => exact h.elim
  | setCredentials credentials => exact h.elim
  | _ => rfl

/-- An operation that goes on has changed the context only by its own login. -/
theorem Grant.context_eq {s s' : Session} {id : TaskId} {goal : Goal} {event : Event}
    {token : String} (grant : Grant s id goal event s' token) :
    s'.context = ⟨event.host?.getD s.context.host, event.credentials?.getD s.context.credentials,
      (s.gains event).or s.context.login⟩ := by
  cases grant with
  | cached _ _ _ => rfl
  | handed _ _ _ => rfl
  | loggedIn h _ hr =>
    simp only [endLogin, gains, h, hr]
    rfl

theorem Entry.context_eq {s s' : Session} {id : TaskId} {goal : Goal} (entry : Entry s id goal s') :
    s'.context = s.context := by
  cases entry <;> rfl

/-- What an event makes of the context. -/
theorem Move.context_eq {s : Session} {event : Event} {moved : Moved} (move : Move s event moved) :
    moved.1.context =
      ⟨event.host?.getD s.context.host, event.credentials?.getD s.context.credentials,
        (s.gains event).or s.context.login⟩ := by
  cases move with
  | idle h => exact h.context_eq
  | granted grant => rw [withToken_context, grant.context_eq]
  | logsIn entry => rw [startLogin_context, entry.context_eq]; rfl
  | loginDone h hr => simp only [finish, eraseTask_context, endLogin, gains, h, hr]; rfl
  | loginFailed h hr => simp only [finish, eraseTask_context, endLogin, gains, h, hr]; rfl
  | answered h => simp only [finish, eraseTask_context, gains, h]; rfl
  | _ => rfl

theorem step_login (s : Session) (event : Event) :
    (s.step event).1.context.login = (s.gains event).or s.context.login := by
  rw [(step_move s event).context_eq]

theorem step_host (s : Session) (event : Event) :
    (s.step event).1.context.host = event.host?.getD s.context.host := by
  rw [(step_move s event).context_eq]

theorem step_credentials (s : Session) (event : Event) :
    (s.step event).1.context.credentials = event.credentials?.getD s.context.credentials := by
  rw [(step_move s event).context_eq]

/-- The results of the logins that succeed in a run, in order. -/
def logins (s : Session) : List Event → List LoginResult
  | [] => []
  | event :: rest => (s.gains event).toList ++ (s.step event).1.logins rest

/-- The stored login is the one that succeeded last. -/
theorem run_login (s : Session) (events : List Event) :
    (s.run events).1.context.login = (s.logins events).getLast?.or s.context.login := by
  induction events generalizing s with
  | nil => rfl
  | cons event rest ih =>
    simp only [run, logins, ih, step_login, List.getLast?_append, Option.or_assoc]
    cases s.gains event <;> rfl

/-- A login succeeds with the page that answers it, if that page reads as a login. -/
theorem gains_iff {s : Session} {event : Event} {result : LoginResult} :
    s.gains event = some result ↔ ∃ id goal page, event = .answer id (.ok page) ∧
      s.task? id = some ⟨goal, .loggingIn⟩ ∧ readLogin page.body = .ok result := by
  constructor
  · intro h
    unfold gains at h
    split at h
    · rename_i id answer
      split at h
      · rename_i goal ht
        cases answer with
        | error error => cases h
        | ok page =>
          cases hr : readLogin page.body with
          | error error => simp [loginResult, hr, Except.toOption] at h
          | ok login =>
            simp only [loginResult, hr, Except.toOption, Option.some.injEq] at h
            exact ⟨id, goal, page, rfl, ht, h ▸ hr⟩
      · cases h
    · cases h
  · rintro ⟨id, goal, page, rfl, ht, hr⟩
    simp only [gains, ht, loginResult, hr, Except.toOption]

theorem gains_token {s : Session} {event : Event} {result : LoginResult}
    (h : s.gains event = some result) :
    result.csrfToken ≠ "" ∧ '\'' ∉ result.csrfToken.toList := by
  obtain ⟨id, goal, page, -, -, hr⟩ := gains_iff.mp h
  exact readLogin_token hr

theorem logins_token {s : Session} {events : List Event} {result : LoginResult}
    (h : result ∈ s.logins events) :
    result.csrfToken ≠ "" ∧ '\'' ∉ result.csrfToken.toList := by
  induction events generalizing s with
  | nil => simp [logins] at h
  | cons event rest ih =>
    simp only [logins, List.mem_append, Option.mem_toList] at h
    rcases h with h | h
    · exact gains_token h
    · exact ih h

/-- What a list tells last, or what was known before. -/
theorem latest_cons {α β : Type} (tell : α → Option β) (first : α) (rest : List α) (known : β) :
    ((first :: rest).filterMap tell).getLast?.getD known =
      (rest.filterMap tell).getLast?.getD ((tell first).getD known) := by
  cases h : tell first with
  | none => simp [h]
  | some told => simp [h, List.getLast?_cons]

theorem run_host (s : Session) (events : List Event) :
    (s.run events).1.context.host =
      (events.filterMap Event.host?).getLast?.getD s.context.host := by
  induction events generalizing s with
  | nil => rfl
  | cons event rest ih =>
    rw [latest_cons, ← step_host]
    exact ih (s.step event).1

theorem run_credentials (s : Session) (events : List Event) :
    (s.run events).1.context.credentials =
      (events.filterMap Event.credentials?).getLast?.getD s.context.credentials := by
  induction events generalizing s with
  | nil => rfl
  | cons event rest ih =>
    rw [latest_cons, ← step_credentials]
    exact ih (s.step event).1

/-- An explicit login that succeeds gives the result that is stored from then on. -/
theorem login_done {s : Session} {id : TaskId} {page : HttpResponse} {login : LoginResult}
    (ht : s.task? id = some ⟨.login, .loggingIn⟩) (hr : readLogin page.body = .ok login) :
    (s.step (.answer id (.ok page))).2 = [.finished id (.ok (.login login))] := by
  simp only [step, ht, Session.answer, answerLogin_eq, loginResult, hr, finish]

/-- Whatever happens to a session, what it knows is what its events have told it: the host of the
last redirect that was reported, the credentials that were set last, and, as a whole, the result of
the login that succeeded last. A login succeeds when it is answered by a page that reads as one, and
what an explicit one gives is what is stored; every other event leaves the stored result alone. -/
theorem run_context (scheme : Scheme) (refresh : Refresh) (host : String)
    (credentials : Credentials) (holds : Url → Bool) (events : List Event) :
    let start := opened scheme refresh host credentials holds
    let s := (start.run events).1
    s.context.host = (events.filterMap Event.host?).getLast?.getD host ∧
      s.context.credentials =
        (events.filterMap Event.credentials?).getLast?.getD credentials ∧
      s.context.login = (start.logins events).getLast? ∧
      (∀ login, s.context.login = some login →
        login.csrfToken ≠ "" ∧ '\'' ∉ login.csrfToken.toList) ∧
      (∀ event, s.gains event = none → (s.step event).1.context.login = s.context.login) ∧
      (∀ event login, s.gains event = some login ↔ ∃ id goal page, event = .answer id (.ok page) ∧
        s.task? id = some ⟨goal, .loggingIn⟩ ∧ readLogin page.body = .ok login) ∧
      ∀ id page login, s.task? id = some ⟨.login, .loggingIn⟩ → readLogin page.body = .ok login →
        (s.step (.answer id (.ok page))).2 = [.finished id (.ok (.login login))] := by
  intro start s
  have known : s.context.login = (start.logins events).getLast? := by
    rw [run_login]
    exact Option.or_none
  refine ⟨run_host start events, run_credentials start events, known, ?_, ?_, ?_, ?_⟩
  · intro login hl
    rw [known] at hl
    exact logins_token (List.mem_of_getLast? hl)
  · intro event hg
    rw [step_login, hg, Option.none_or]
  · exact fun event login => gains_iff
  · exact fun id page login => login_done

end Session
end WlanAdmin
