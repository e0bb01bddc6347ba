import WlanAdmin.Client.Call
import WlanAdmin.Proofs.Envelope.Decode
import WlanAdmin.Proofs.Page.Rejection
import WlanAdmin.Proofs.Session.Moves

/-!
# WlanAdmin.Proofs.Client.Answer

What an answer makes of a call, said once for every kind of failure: a request that got no answer, a
page that does not log in, a status, and a body.

* `LoginFails`, `LoginPasses` : the answers to a login.
* `Reads`, `Gives` : the result of a call, from a body, and from the answer to its own request.
* `Call.GoesTo` : the four kinds of calls, and where each of them goes.
* `loginFails_iff`, `GoesTo.gives_iff` : these are the results that operations end with.
-/

namespace WlanAdmin

/-! ## Failures and results -/

/-- What becomes of a request that got no answer. -/
inductive Unanswered : TransportError → ClientError → Prop where
  /-- A controller whose redirects do not end breaks the protocol. -/
  | redirects {limit : Nat} :
      Unanswered (.redirectLimit limit) (.protocol (.redirectLimit limit))
  | other {error : TransportError} : (∀ limit, error ≠ .redirectLimit limit) →
      Unanswered error (.transport error)

/-- The page that an answer shows. -/
def HttpResponse.page (answer : HttpResponse) : List Html.Node :=
  Html.parse (decodeReplacing answer.body)

/-- How an answer fails a login. Its status does not matter. -/
inductive LoginFails : Except TransportError HttpResponse → ClientError → Prop where
  | unanswered {error : TransportError} {failure : ClientError} : Unanswered error failure →
      LoginFails (.error error) failure
  | rejected {answer : HttpResponse} {reason : String} : LoginPage.Rejects answer.page reason →
      LoginFails (.ok answer) (.auth reason)
  | noScript {answer : HttpResponse} : LoginPage.ofNodes answer.page = .noScript →
      LoginFails (.ok answer) (.protocol (.page .noScript))
  | noToken {answer : HttpResponse} {declared : ScriptVariables} :
      LoginPage.ofNodes answer.page = .script declared → declared.token = none →
      LoginFails (.ok answer) (.protocol (.page .noToken))

/-- An answer that logs in: its page declares a token. -/
inductive LoginPasses : Except TransportError HttpResponse → Prop where
  | token {answer : HttpResponse} {declared : ScriptVariables} {token : String} :
      LoginPage.ofNodes answer.page = .script declared → declared.token = some token →
      LoginPasses (.ok answer)

/-- The result of a call that got a body with status 200. -/
inductive Reads : {α : Type} → Call α → Bytes → Except ClientError α → Prop where
  | confUnread {envelope : RequestEnvelope} {body : Bytes} {error : DecodeError} :
      ResponseEnvelope.decode body = .error error →
      Reads (.conf envelope) body (.error (.decode error))
  /-- The error that the controller reports wins over any payload beside it. -/
  | confRefused {envelope : RequestEnvelope} {body : Bytes} {response : ResponseEnvelope}
      {xmsg : Xmsg} : ResponseEnvelope.decode body = .ok response →
      ResponseEnvelope.findXmsg response.raw = .ok (some xmsg) →
      Reads (.conf envelope) body (.error (.application xmsg))
  | conf {envelope : RequestEnvelope} {body : Bytes} {response : ResponseEnvelope} :
      ResponseEnvelope.decode body = .ok response →
      ResponseEnvelope.findXmsg response.raw = .ok none →
      Reads (.conf envelope) body (.ok ⟨response.kind, response.id, response.raw⟩)
  | statUnread {β : Type} {payload : Bytes → Except DecodeError β} {envelope : RequestEnvelope}
      {body : Bytes} {error : DecodeError} : StatResponse.decode payload body = .error error →
      Reads (.stat payload envelope) body (.error (.decode error))
  | stat {β : Type} {payload : Bytes → Except DecodeError β} {envelope : RequestEnvelope}
      {body : Bytes} {response : StatResponse β} :
      StatResponse.decode payload body = .ok response →
      Reads (.stat payload envelope) body (.ok response)
  | commandUnread {envelope : RequestEnvelope} {body : Bytes} {error : DecodeError} :
      checkWellFormed body = .error error →
      Reads (.command envelope) body (.error (.decode error))
  | command {envelope : RequestEnvelope} {body : Bytes} : checkWellFormed body = .ok () →
      Reads (.command envelope) body (.ok ())
  | get {path : String} {limit : Nat} {body : Bytes} : Reads (.get path limit) body (.ok body)

/-- The result of a call, from the answer to its own request. -/
inductive Gives {α : Type} (call : Call α) (path : String) :
    Except TransportError HttpResponse → Except ClientError α → Prop where
  | unanswered {error : TransportError} {failure : ClientError} : Unanswered error failure →
      Gives call path (.error error) (.error failure)
  | status {answer : HttpResponse} : answer.status ≠ 200 →
      Gives call path (.ok answer) (.error (.transport (.status answer.status path)))
  | read {answer : HttpResponse} {result : Except ClientError α} : answer.status = 200 →
      Reads call answer.body result → Gives call path (.ok answer) result

theorem unanswered_iff {error : TransportError} {failure : ClientError} :
    Unanswered error failure ↔ failure = .ofTransport error := by
  constructor
  · intro h
    cases h with
    | redirects => rfl
    | other plain =>
      cases error with
      | redirectLimit limit => exact absurd rfl (plain limit)
      | _ => rfl
  · rintro rfl
    cases error with
    | redirectLimit limit => exact .redirects
    | _ => exact .other nofun

/-- What an answer gives that does not log in. -/
theorem loginFails_iff {answer : Except TransportError HttpResponse} {failure : ClientError} :
    LoginFails answer failure ↔
      ∃ error, Session.loginResult answer = .error error ∧ failure = .ofSession error := by
  constructor
  · intro h
    cases h with
    | unanswered lost => exact ⟨_, rfl, unanswered_iff.mp lost⟩
    | @rejected answer reason rejects =>
      have shown : LoginPage.ofNodes answer.page = .rejected reason :=
        LoginPage.ofNodes_rejected_iff.mpr rejects
      exact ⟨.rejected reason, congrArg LoginPage.result shown, rfl⟩
    | noScript shown => exact ⟨_, congrArg LoginPage.result shown, rfl⟩
    | @noToken answer declared shown token =>
      refine ⟨.badResponse .noToken, (congrArg LoginPage.result shown).trans ?_, rfl⟩
      simp only [LoginPage.result, token]
  · rintro ⟨error, failed, rfl⟩
    cases answer with
    | error lost =>
      cases failed
      exact .unanswered (unanswered_iff.mpr rfl)
    | ok answer =>
      change (LoginPage.ofNodes answer.page).result = .error error at failed
      cases shown : LoginPage.ofNodes answer.page with
      | rejected reason =>
        rw [shown] at failed
        cases failed
        exact .rejected (LoginPage.ofNodes_rejected_iff.mp shown)
      | noScript =>
        rw [shown] at failed
        cases failed
        exact .noScript shown
      | script declared =>
        rw [shown] at failed
        cases token : declared.token with
        | some token => simp [LoginPage.result, token] at failed
        | none =>
          simp only [LoginPage.result, token] at failed
          cases failed
          exact .noToken shown token

theorem loginPasses {answer : Except TransportError HttpResponse} {result : LoginResult}
    (h : Session.loginResult answer = .ok result) : LoginPasses answer := by
  cases answer with
  | error lost => cases h
  | ok answer =>
    change (LoginPage.ofNodes answer.page).result = .ok result at h
    cases shown : LoginPage.ofNodes answer.page with
    | rejected reason => rw [shown] at h; cases h
    | noScript => rw [shown] at h; cases h
    | script declared =>
      rw [shown] at h
      cases token : declared.token with
      | some token => exact .token shown token
      | none => simp [LoginPage.result, token] at h

/-! ## The four kinds of calls -/

/-- The calls of a client, and where each of them goes. -/
inductive Call.GoesTo : {α : Type} → Call α → String → Prop where
  | conf {envelope : RequestEnvelope} : GoesTo (.conf envelope) envelope.kind.path
  | stat {β : Type} {payload : Bytes → Except DecodeError β} {envelope : RequestEnvelope} :
      GoesTo (.stat payload envelope) envelope.kind.path
  | command {envelope : RequestEnvelope} : GoesTo (.command envelope) envelope.kind.path
  | get {path : String} {limit : Nat} : GoesTo (.get path limit) path

namespace Call

variable {α : Type} {call : Call α} {path : String}

/-- A call goes to its path with an envelope, or with nothing. -/
theorem GoesTo.goal (goes : call.GoesTo path) :
    (∃ body, call.goal = .post path body) ∨ ∃ limit, call.goal = .get path limit := by
  cases goes with
  | conf => exact .inl ⟨_, rfl⟩
  | stat => exact .inl ⟨_, rfl⟩
  | command => exact .inl ⟨_, rfl⟩
  | get => exact .inr ⟨_, rfl⟩

theorem GoesTo.wantsToken (goes : call.GoesTo path) : call.goal.wantsToken = true := by
  obtain ⟨body, h⟩ | ⟨limit, h⟩ := goes.goal <;> rw [h] <;> rfl

theorem GoesTo.reads (goes : call.GoesTo path) (body : Bytes) :
    Reads call body (call.interpret body) := by
  cases goes with
  | conf =>
    simp only [Call.conf, readConf]
    cases read : ResponseEnvelope.decode body with
    | error error => exact .confUnread read
    | ok response =>
      have top := ResponseEnvelope.decode_error read
      cases reported : response.error with
      | some xmsg =>
        simpa [ResponseEnvelope.result, reported] using .confRefused read (reported ▸ top)
      | none => simpa [ResponseEnvelope.result, reported] using .conf read (reported ▸ top)
  | @stat β payload envelope =>
    simp only [Call.stat, decoding]
    cases read : StatResponse.decode payload body with
    | error error => exact .statUnread read
    | ok response => exact .stat read
  | command =>
    simp only [Call.command, decoding]
    cases read : checkWellFormed body with
    | error error => exact .commandUnread read
    | ok => exact .command read
  | get => exact .get

theorem interpret_of_reads {body : Bytes} {result : Except ClientError α}
    (h : Reads call body result) : call.interpret body = result := by
  cases h with
  | confUnread read => simp only [Call.conf, readConf, read]
  | @confRefused _ _ response xmsg read top =>
    have reported : response.error = some xmsg :=
      Except.ok.inj ((ResponseEnvelope.decode_error read).symm.trans top)
    simp only [Call.conf, readConf, read, ResponseEnvelope.result, reported]
  | @conf _ _ response read top =>
    have reported : response.error = none :=
      Except.ok.inj ((ResponseEnvelope.decode_error read).symm.trans top)
    simp only [Call.conf, readConf, read, ResponseEnvelope.result, reported]
  | statUnread read => simp only [Call.stat, decoding, read]
  | stat read => simp only [Call.stat, decoding, read]
  | commandUnread read => simp only [Call.command, decoding, read]
  | command read => simp only [Call.command, decoding, read]
  | get => rfl

/-- What a call gives for an answer to its own request. -/
theorem GoesTo.gives_iff (goes : call.GoesTo path) {answer : Except TransportError HttpResponse}
    {result : Except ClientError α} :
    Gives call path answer result ↔
      call.finish (Session.outcomeOf call.goal answer) = result := by
  have outcome (answer : HttpResponse) : Session.outcomeOf call.goal (.ok answer) =
      if answer.status = 200 then .ok (.body answer.body)
      else .error (.transport (.status answer.status path)) := by
    obtain ⟨body, h⟩ | ⟨limit, h⟩ := goes.goal <;> rw [h] <;>
      simp [Session.outcomeOf, HttpResponse.isOk]
  constructor
  · intro h
    cases h with
    | unanswered lost => rw [unanswered_iff.mp lost]; rfl
    | status other => rw [outcome, if_neg other]; rfl
    | read ok reads => rw [outcome, if_pos ok]; exact interpret_of_reads reads
  · rintro rfl
    cases answer with
    | error error => exact .unanswered (unanswered_iff.mpr rfl)
    | ok answer =>
      rw [outcome]
      by_cases ok : answer.status = 200
      · rw [if_pos ok]
        exact .read ok (goes.reads answer.body)
      · rw [if_neg ok]
        exact .status ok

end Call

end WlanAdmin
