import Mathlib.Logic.Relation
import WlanAdmin.Proofs.Http.Redirects

/-!
# WlanAdmin.Proofs.Http.BodyLimit

How much of a body is read. Whether a body is within the limit depends on its length and on the
length that was announced, and on nothing else: not on the pieces that it arrives in.

* `Reading.run_eq_iff`      : a reading is run by its steps, up to one that ends it.
* `Within.step`, `Reaches.within` : what a step keeps, and so every reading of a body.
* `Within.ended`            : what the last step gives.
* `WireBody.read_eq`        : what is read of a body as a whole.
* `HttpNetwork.Answers`     : the answer that a request comes to after its redirects.
* `HttpNetwork.send_capped` : all of this for the sending of a request.
-/

namespace WlanAdmin
namespace WireBody

open Relation

/-! ## Step by step -/

namespace Reading

variable {limit : Nat} {reading next : Reading} {result : Except TransportError Bytes}

/-- A step after which the reading goes on. -/
def Advances (limit : Nat) (reading next : Reading) : Prop :=
  reading.step limit = .inl next

theorem run_eq (limit : Nat) (reading : Reading) :
    reading.run limit =
      match reading.step limit with
      | .inl next => next.run limit
      | .inr result => result := by
  rw [run]
  split
  · next next stepped => simp only [stepped]
  · next result ended => simp only [ended]

theorem run_of_advances (h : reading.Advances limit next) : reading.run limit = next.run limit := by
  have stepped : reading.step limit = .inl next := h
  rw [run_eq, stepped]

theorem run_of_ended (h : reading.step limit = .inr result) : reading.run limit = result := by
  rw [run_eq, h]

/-- Every reading comes to an end, as fewer pieces are to come after each step. -/
theorem run_eq_iff : reading.run limit = result ↔
    ∃ last, ReflTransGen (Advances limit) reading last ∧ last.step limit = .inr result := by
  constructor
  · rintro rfl
    induction reading using run.induct limit with
    | case1 reading next stepped ih =>
      obtain ⟨last, steps, ended⟩ := ih
      rw [run_of_advances stepped]
      exact ⟨last, .head stepped steps, ended⟩
    | case2 reading result ended =>
      rw [run_of_ended ended]
      exact ⟨reading, .refl, ended⟩
  · rintro ⟨last, steps, ended⟩
    induction steps using ReflTransGen.head_induction_on with
    | refl => exact run_of_ended ended
    | head advances _ ih => exact (run_of_advances advances).trans ih

end Reading

/-! ## What a step keeps -/

/-- A body is within a limit, and so is the length that was announced. -/
def Fits (limit : Nat) (body : WireBody) : Prop :=
  (∀ n ∈ body.declared, n ≤ limit) ∧ body.chunks.flatten.length ≤ limit

instance (limit : Nat) (body : WireBody) : Decidable (body.Fits limit) :=
  inferInstanceAs (Decidable (_ ∧ _))

/-- What is known of a reading: it is within the limit, and nothing of the body is lost. -/
structure Within (limit : Nat) (body : WireBody) (reading : Reading) : Prop where
  length_le : reading.gathered.length ≤ limit
  whole_eq : reading.gathered ++ reading.coming.flatten = body.chunks.flatten
  broken_eq : reading.broken = body.broken

variable {limit : Nat} {body : WireBody} {reading next : Reading}
  {result : Except TransportError Bytes}

theorem Within.step (h : Within limit body reading) (advances : reading.Advances limit next) :
    Within limit body next := by
  obtain ⟨chunk, coming_eq, within, gathered_eq, broken_eq⟩ :=
    Reading.exists_chunk_of_step advances
  constructor
  · rw [gathered_eq, List.length_append]
    exact within
  · rw [gathered_eq, List.append_assoc, ← List.flatten_cons, ← coming_eq, h.whole_eq]
  · rw [broken_eq, h.broken_eq]

/-- The last step says whether the whole is within the limit. -/
theorem Within.ended (h : Within limit body reading) (ended : reading.step limit = .inr result) :
    result = if limit < body.chunks.flatten.length then .error (.bodyTooLarge limit)
      else if body.broken then .error .http else .ok body.chunks.flatten := by
  obtain ⟨gathered, coming, broken⟩ := reading
  obtain ⟨length_le, whole_eq, rfl⟩ := h
  rw [← whole_eq]
  cases coming with
  | nil =>
    cases ended
    simp [Nat.not_lt.mpr length_le]
  | cons chunk rest =>
    by_cases beyond : limit < gathered.length + chunk.length
    · have long : limit < (gathered ++ (chunk :: rest).flatten).length := by
        simp only [List.flatten_cons, List.length_append]
        omega
      rw [if_pos long]
      simpa [Reading.step, beyond] using ended.symm
    · simp [Reading.step, beyond] at ended

/-! ## Whole bodies -/

/-- The readings of a body, from the one that it is opened with. -/
def Reaches (limit : Nat) (body : WireBody) (reading : Reading) : Prop :=
  ∃ start, body.opened limit = .ok start ∧ ReflTransGen (Reading.Advances limit) start reading

/-- What comes of a body: it is not opened, or one of its readings is the last. -/
inductive Ends (limit : Nat) (body : WireBody) : Except TransportError Bytes → Prop where
  | closed {error : TransportError} :
      body.opened limit = .error error → Ends limit body (.error error)
  | last {reading : Reading} {result : Except TransportError Bytes} :
      body.Reaches limit reading → reading.step limit = .inr result → Ends limit body result

theorem ends_read (limit : Nat) (body : WireBody) : body.Ends limit (body.read limit) := by
  cases opened : body.opened limit with
  | error error =>
    rw [read, opened]
    exact .closed opened
  | ok start =>
    obtain ⟨last, steps, ended⟩ := Reading.run_eq_iff.mp (rfl : start.run limit = start.run limit)
    rw [read, opened]
    exact .last ⟨start, opened, steps⟩ ended

theorem opened_eq (limit : Nat) (body : WireBody) :
    body.opened limit = if ∀ n ∈ body.declared, n ≤ limit then
      .ok { coming := body.chunks, broken := body.broken } else .error (.bodyTooLarge limit) := by
  rw [opened]
  cases body.declared with
  | none => simp
  | some n =>
    by_cases beyond : limit < n
    · simp [beyond]
    · simp [Nat.le_of_not_lt beyond]

/-- At no point more is gathered than the limit allows. -/
theorem Reaches.within (reaches : body.Reaches limit reading) : Within limit body reading := by
  obtain ⟨start, opened, steps⟩ := reaches
  induction steps with
  | refl =>
    rw [opened_eq] at opened
    split at opened
    · cases opened
      exact ⟨Nat.zero_le _, rfl, rfl⟩
    · cases opened
  | tail _ step ih => exact ih.step step

theorem read_eq (limit : Nat) (body : WireBody) :
    body.read limit =
      if ¬ body.Fits limit then .error (.bodyTooLarge limit)
      else if body.broken then .error .http else .ok body.chunks.flatten := by
  have opened_eq := opened_eq limit body
  by_cases announced : ∀ n ∈ body.declared, n ≤ limit
  · rw [if_pos announced] at opened_eq
    generalize eq : body.read limit = result
    cases eq ▸ ends_read limit body with
    | closed opened => cases opened.symm.trans opened_eq
    | last reaches ended =>
      rw [reaches.within.ended ended]
      by_cases long : limit < body.chunks.flatten.length
      · rw [if_pos long, if_pos fun fits => Nat.not_lt.mpr fits.2 long]
      · rw [if_neg long, if_neg (not_not.mpr ⟨announced, Nat.le_of_not_lt long⟩)]
  · rw [if_neg announced] at opened_eq
    rw [read, opened_eq, if_pos fun fits => announced fits.1]
    rfl

end WireBody

/-! ## Bodies of answers -/

namespace HttpNetwork

variable {σ : Type} {network : HttpNetwork σ} {settings : TransportSettings} {state : HttpState σ}
  {request : HttpRequest} {url : Url} {answer : WireAnswer}

/-- A request comes to an answer that redirects no further, after no more redirects than are
followed. -/
structure Answers (network : HttpNetwork σ) (settings : TransportSettings) (state : HttpState σ)
    (request : HttpRequest) (url : Url) (answer : WireAnswer) : Prop where
  sendable : request.csrfToken.all isHeaderValue = true
  reached : ∃ targets last final next, network.Leads state request.wire targets last final ∧
    targets.length ≤ settings.maxRedirects ∧ network.ask last final = (next, some answer) ∧
    answer.target? final.url = none ∧ final.url = url

theorem Answers.outcome_eq (h : network.Answers settings state request url answer) :
    (network.send settings state request).outcome =
      (answer.body.read (min request.bodyLimit settings.bodyLimit)).map fun body =>
        ⟨answer.status, url, body⟩ := by
  obtain ⟨targets, last, final, next, leads, within, asks, ends, rfl⟩ := h.reached
  obtain ⟨-, -, outcome_eq, -⟩ := leads.follow settings
    (min request.bodyLimit settings.bodyLimit) (settings.maxRedirects - targets.length)
  rw [Nat.add_sub_cancel' within, ← send_of_sendable h.sendable,
    follow_end settings _ asks ends] at outcome_eq
  exact outcome_eq

/-- The limit is the smaller one of the request's and the configured one. A body is given whole
exactly if it is within the limit, and so is the length that was announced; otherwise the request
fails for it. The outcome is what the steps of a reading come to, and in none of these readings more
is gathered than the limit allows. The pieces in which a body arrives do not matter. -/
theorem send_capped (answers : network.Answers settings state request url answer) :
    let limit := min request.bodyLimit settings.bodyLimit
    let outcome := (network.send settings state request).outcome
    let body := answer.body
    (outcome = .ok ⟨answer.status, url, body.chunks.flatten⟩ ↔
      body.Fits limit ∧ body.broken = false) ∧
    (¬ body.Fits limit → outcome = .error (.bodyTooLarge limit)) ∧
    (body.Fits limit → body.broken = true → outcome = .error .http) ∧
    (∃ result, body.Ends limit result ∧
      outcome = result.map fun octets => ⟨answer.status, url, octets⟩) ∧
    (∀ reading, body.Reaches limit reading → reading.gathered.length ≤ limit) ∧
    ∀ {τ : Type} (other : HttpNetwork τ) (state' : HttpState τ) (chunks : List Bytes),
      chunks.flatten = body.chunks.flatten →
      other.Answers settings state' request url { answer with body := { body with chunks } } →
      (other.send settings state' request).outcome = outcome := by
  intro limit outcome body
  have outcome_eq : outcome = (body.read limit).map fun octets => ⟨answer.status, url, octets⟩ :=
    answers.outcome_eq
  have read_eq := body.read_eq limit
  clear_value outcome
  refine ⟨?_, ?_, ?_, ⟨_, body.ends_read limit, outcome_eq⟩, fun reading reaches =>
    reaches.within.length_le, ?_⟩
  · by_cases fits : body.Fits limit
    · cases broken : body.broken <;> simp [outcome_eq, read_eq, fits, broken, Except.map]
    · simp [outcome_eq, read_eq, fits, Except.map]
  · intro beyond
    simp [outcome_eq, read_eq, beyond, Except.map]
  · intro fits broken
    simp [outcome_eq, read_eq, fits, broken, Except.map]
  · -- a reading depends on the pieces only through what they are together
    intro τ other state' chunks same answers'
    have fits_iff : WireBody.Fits limit { body with chunks } ↔ body.Fits limit := by
      simp only [WireBody.Fits, same]
    have same_read : WireBody.read limit { body with chunks } = body.read limit := by
      rw [WireBody.read_eq, read_eq]
      simp only [fits_iff, same]
    rw [answers'.outcome_eq, outcome_eq]
    exact congrArg (Except.map _) same_read

/-- A network in which every request is answered with these pieces, and their length announced. -/
def answering (chunks : List Bytes) : HttpNetwork Unit where
  exchange _ _ := ((), some { body := ⟨some chunks.flatten.length, chunks, false⟩ })

/-- Three octets in pieces, one of which is empty, are read with a limit of three, and just these
are gathered at the end. With a limit of two they are not read. -/
theorem send_capped_at_limit :
    let url : Url := ⟨"https", "", "", some (.domain "a"), none, .segments [""], none, none⟩
    let request := (HttpRequest.get url).withLimit 3
    let network := answering [[1], [], [2, 3]]
    let body : WireBody := ⟨some 3, [[1], [], [2, 3]], false⟩
    network.Answers {} { network := () } request url { body } ∧
    (network.send {} { network := () } request).outcome = .ok ⟨200, url, [1, 2, 3]⟩ ∧
    body.Reaches 3 ⟨[1, 2, 3], [], false⟩ ∧
    (∀ reading, body.Reaches 3 reading → reading.gathered.length ≤ 3) ∧
    (network.send { bodyLimit := 2 } { network := () } request).outcome =
      .error (.bodyTooLarge 2) := by
  intro url request network body
  have answers : ∀ settings : TransportSettings, network.Answers settings { network := () } request
      url { body } := fun settings => ⟨rfl, [], _, _, _, .here, Nat.zero_le _, rfl, rfl, rfl⟩
  obtain ⟨within, -, -, -, bounded, -⟩ := send_capped (answers {})
  have beyond := (send_capped (answers { bodyLimit := 2 })).2.1
  have reaches : body.Reaches 3 ⟨[1, 2, 3], [], false⟩ :=
    ⟨_, rfl, .head rfl (.head rfl (.head rfl .refl))⟩
  exact ⟨answers {}, within.mpr (by decide), reaches, bounded, beyond (by decide)⟩

end HttpNetwork
end WlanAdmin
