import WlanAdmin.Envelope.Request
import WlanAdmin.Proofs.Envelope.WellFormed
import WlanAdmin.Proofs.Xml.Written

/-!
# WlanAdmin.Proofs.Envelope.Request

A written request is read as what it was set up with, whatever that is: no component can end the tag
or a value early, and the payload stands between the tags as it was given.

* `build_eq` : of several calls that set the same, the last one counts.
* `tag`, `tags` : the start tag of a request, and its pair of tags.
* `next_encode`, `tagAttributes_tag` : the tag is read first, and with it the attributes.
* `encode_read_back` : what is read of every request that can be set up.
-/

namespace WlanAdmin

open Xml

/-! ## Setting up -/

/-- What a call says about secrets, if it does. -/
def BuilderCall.decrypt? : BuilderCall → Option Bool
  | .decrypt wanted => some wanted
  | _ => none

/-- The octets that a call gives as the payload, if it does. -/
def BuilderCall.payload? : BuilderCall → Option Bytes
  | .payload (.ok written) => some written
  | .rawPayload octets => some octets
  | _ => none

/-- What the last call for it has said about secrets. -/
def lastDecrypt (calls : List BuilderCall) : Bool :=
  (calls.filterMap BuilderCall.decrypt?).getLast?.getD false

/-- The payload that was given last. -/
def lastPayload (calls : List BuilderCall) : Bytes :=
  (calls.filterMap BuilderCall.payload?).getLast?.getD []

namespace RequestEnvelope

/-- Calls that succeed leave a request that differs in what they set, and there the last counts. -/
theorem build_eq {start envelope : RequestEnvelope} {calls : List BuilderCall}
    (built : start.build calls = .ok envelope) :
    envelope = { start with
      decrypt := (calls.filterMap BuilderCall.decrypt?).getLast?.getD start.decrypt
      payload := (calls.filterMap BuilderCall.payload?).getLast?.getD start.payload } := by
  induction calls generalizing start with
  | nil => cases built; rfl
  | cons call rest ih =>
    cases call with
    | decrypt wanted =>
      rw [ih built]
      simp [BuilderCall.decrypt?, BuilderCall.payload?, List.getLast?_cons]
    | rawPayload octets =>
      rw [ih built]
      simp [BuilderCall.decrypt?, BuilderCall.payload?, List.getLast?_cons]
    | payload written =>
      cases written with
      | error error => cases built
      | ok octets =>
        rw [ih built]
        simp [BuilderCall.decrypt?, BuilderCall.payload?, List.getLast?_cons]

/-! ## The tags -/

/-- The start tag of a request, between its angle brackets. -/
def tag (envelope : RequestEnvelope) : Bytes :=
  writeTag .full "ajax-request" envelope.attributes

theorem plainName_root : PlainName "ajax-request" := by decide

theorem attributes_plain (envelope : RequestEnvelope) :
    ∀ attr ∈ envelope.attributes, PlainName attr.1 := by
  obtain ⟨kind, comp, decrypt, payload⟩ := envelope
  cases kind <;> cases decrypt <;>
    simp only [attributes, List.cons_append, List.nil_append, List.mem_cons, List.not_mem_nil,
      or_false, forall_eq_or_imp, forall_eq, if_true, if_false, Bool.false_eq_true] <;> decide

theorem attributes_distinct (envelope : RequestEnvelope) :
    (envelope.attributes.map Prod.fst).Nodup := by
  obtain ⟨kind, comp, decrypt, payload⟩ := envelope
  cases kind <;> cases decrypt <;> simp [attributes]

/-- The tags of a request. -/
def tags (envelope : RequestEnvelope) : TagPair where
  tag := envelope.tag
  close := utf8 "ajax-request"
  opens := stands_startTag plainName_root envelope.attributes_plain
  closes := stands_endTag plainName_root
  matched := (endName_plain plainName_root).trans (tagName_writeTag plainName_root).symm

theorem encode_eq (envelope : RequestEnvelope) :
    envelope.encode = envelope.tags.around envelope.payload := by
  have close : utf8 "</ajax-request>" = 0x3C :: 0x2F :: utf8 "ajax-request" ++ [0x3E] := by decide
  simp only [encode, TagPair.around, Lexeme.source, tags, tag, close, List.append_assoc]

/-- The start tag is read first, and what follows it is the payload and the end tag. -/
theorem next_encode (envelope : RequestEnvelope) :
    next envelope.encode =
      .lexeme (.startTag envelope.tag) (envelope.payload ++ utf8 "</ajax-request>") := by
  obtain ⟨rest, first, ends⟩ := envelope.tags.opens.next_eq
  rw [ends.eq_nil] at first
  rw [encode_eq]
  exact next_append first nofun

/-- The attributes of the tag are those of the request, in their order. -/
theorem tagAttributes_tag (envelope : RequestEnvelope) :
    (tagAttributes envelope.tag).sound = true ∧
      (tagAttributes envelope.tag).all.map (fun attr => (attr.name, attr.text?)) =
        envelope.attributes.map fun attr => (utf8 attr.1, some attr.2) := by
  refine ⟨?_, texts_writeTag plainName_root envelope.attributes_plain envelope.attributes_distinct⟩
  rw [tag, tagAttributes_writeTag plainName_root envelope.attributes_plain
    envelope.attributes_distinct]

/-! ## The check of what was written -/

/-- A request with a balanced payload is well formed. -/
theorem checkWellFormed_encode (envelope : RequestEnvelope) (content : Balanced)
    (reads : Xml.Reads envelope.payload content.lexemes) :
    checkWellFormed envelope.encode = .ok () := by
  let whole := envelope.tags.fragment ⟨envelope.payload, content, reads⟩
  have unmarked : withoutMark envelope.encode = envelope.encode :=
    withoutMark_eq fun b first => by cases first; decide
  have read_whole : Xml.Reads (withoutMark envelope.encode) whole.content.lexemes := by
    rw [unmarked, encode_eq]
    exact whole.reads
  exact (checkWellFormed_of_reads read_whole).mpr (List.cons_ne_nil _ _)

/-- Whatever a request is set up with, reading what is written of it gives that back: a start tag
with exactly its attributes, in their order and each with the value that was given, then the octets
of the payload that was given last, and the end tag. So if the payload is balanced, the whole is
well formed. -/
theorem encode_read_back (kind : RequestKind) (comp : String) (calls : List BuilderCall)
    (envelope : RequestEnvelope)
    (built : ({ kind, comp } : RequestEnvelope).build calls = .ok envelope) :
    let attributes : List (String × String) :=
      ("action", kind.action) :: (if lastDecrypt calls then [("DECRYPT_X", "true")] else []) ++
        (match kind with
          | .conf _ => []
          | .stat => [("caller", "")]
          | .command => [("xcmd", comp)]) ++
        [("updater", ""), ("comp", comp)]
    (∃ tag, next envelope.encode =
        .lexeme (.startTag tag) (lastPayload calls ++ utf8 "</ajax-request>") ∧
      tagName tag = utf8 "ajax-request" ∧ (tagAttributes tag).sound = true ∧
      (tagAttributes tag).all.map (fun attr => (attr.name, attr.text?)) =
        attributes.map fun attr => (utf8 attr.1, some attr.2)) ∧
    ((∃ content : Balanced, Xml.Reads (lastPayload calls) content.lexemes) →
      checkWellFormed envelope.encode = .ok ()) := by
  intro attributes
  have given := build_eq built
  have payload : envelope.payload = lastPayload calls := congrArg RequestEnvelope.payload given
  have written : envelope.attributes = attributes := by
    rw [given]
    cases kind <;> rfl
  obtain ⟨sound, all⟩ := envelope.tagAttributes_tag
  refine ⟨⟨envelope.tag, payload ▸ envelope.next_encode, tagName_writeTag plainName_root, sound,
    written ▸ all⟩, ?_⟩
  rintro ⟨content, reads⟩
  exact envelope.checkWellFormed_encode content (payload ▸ reads)

/-- A component of markup and references, secrets asked for in the end, and the second of two
payloads. -/
theorem encode_read_back_markup :
    let comp := "x'\"/><a b=\"&lt;\">"
    let payload := utf8 "<wlan name='>'/>"
    let calls : List BuilderCall := [.rawPayload (utf8 "</ajax-request>"), .decrypt false,
      .payload (.ok payload), .decrypt true]
    let envelope : RequestEnvelope := { kind := .command, comp, decrypt := true, payload }
    (command comp).build calls = .ok envelope ∧ checkWellFormed envelope.encode = .ok () ∧
      ∃ tag, next envelope.encode =
          .lexeme (.startTag tag) (payload ++ utf8 "</ajax-request>") ∧
        (tagAttributes tag).all.map (fun attr => (attr.name, attr.text?)) =
          [(utf8 "action", some "docmd"), (utf8 "DECRYPT_X", some "true"),
            (utf8 "xcmd", some comp), (utf8 "updater", some ""), (utf8 "comp", some comp)] := by
  intro comp payload calls envelope
  have built : (command comp).build calls = .ok envelope := rfl
  have reads : Xml.Reads payload [.emptyTag (utf8 "wlan name='>'")] := by decide +kernel
  obtain ⟨⟨tag, first, -, -, attributes⟩, check⟩ :=
    encode_read_back .command comp calls envelope built
  exact ⟨built, check ⟨.empty _ .nil, reads⟩, tag, first, attributes⟩

end RequestEnvelope
end WlanAdmin
