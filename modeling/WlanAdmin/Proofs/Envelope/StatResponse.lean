import WlanAdmin.Client.Call
import WlanAdmin.Proofs.Envelope.Decode
import WlanAdmin.Record.WlanStatus

/-!
# WlanAdmin.Proofs.Envelope.StatResponse

Responses to statistics requests, and the structured error that may stand inside of one. The error
is no answer by itself, but it is read all the same, and one that cannot be read spoils the
response.

* `xmsgOfTag_eq` : what is read of a structured error.
* `ErrorLegible` : the structured error of some content, if there is any, can be read.
* `decode_beside_error` : the response is its payload, or the error is in the way.
* `refused_for_error` : a response that is refused though its payload can be read.
* `ResponseDocument.bare` : a response with nothing around it.
-/

namespace WlanAdmin

open Xml

namespace ResponseEnvelope

theorem resolveAttributes_illegible {body : Bytes} (h : ¬ Legible body) :
    resolveAttributes (fun _ => true) body = .error .malformed := by
  rw [resolveAttributes_eq, List.filter_true]
  cases read : (tagAttributes body).all.mapM resolveAttribute with
  | error error =>
    obtain ⟨_, attr, _, _, _, failed⟩ := mapM_eq_error_iff.mp read
    rw [resolveAttribute_error failed]
    rfl
  | ok resolved =>
    have spelled : ∀ attr ∈ (tagAttributes body).all, attr.text?.isSome := by
      intro attr mem
      obtain ⟨pair, ok⟩ := exists_mapM_eq_ok_iff.mp ⟨resolved, read⟩ attr mem
      exact resolveAttribute_ok ok
    have unsound : ¬ (tagAttributes body).sound = true := fun sound => h ⟨sound, spelled⟩
    show (if _ then _ else _) = _
    rw [if_neg unsound]

/-- A structured error is read if all its attributes can be. -/
theorem xmsgOfTag_eq (body : Bytes) :
    xmsgOfTag body = if Legible body then .ok (errorText body) else .error .malformed := by
  split
  · exact xmsgOfTag_legible ‹_›
  · rw [xmsgOfTag, resolveAttributes_illegible ‹_›]
    rfl

/-- The structured error of some content, if there is any, can be read. -/
def ErrorLegible (f : Fragment) : Prop := ∀ tag, errorTag? f = some tag → Legible tag

instance (f : Fragment) : Decidable (ErrorLegible f) :=
  match h : errorTag? f with
  | none => .isTrue fun tag found => by cases h.symm.trans found
  | some first =>
    if legible : Legible first then
      .isTrue fun tag found => by
        cases h.symm.trans found
        exact legible
    else .isFalse fun all => legible (all first h)

theorem findXmsg_eq (f : Fragment) :
    findXmsg f.octets =
      if ErrorLegible f then .ok ((errorTag? f).map errorText) else .error .malformed := by
  rw [findXmsg_fragment]
  cases h : errorTag? f with
  | none =>
    have legible : ErrorLegible f := by
      intro tag found
      rw [h] at found
      cases found
    rw [if_pos legible]
    rfl
  | some first =>
    have iff : ErrorLegible f ↔ Legible first := by
      constructor
      · intro all
        exact all first h
      · intro legible tag found
        rw [h] at found
        cases found
        exact legible
    simp only [xmsgOfTag_eq, iff]
    split <;> rfl

end ResponseEnvelope

open ResponseEnvelope

deriving instance DecidableEq for StatResponse

namespace StatResponse

theorem decode_of_legible {α : Type} (payload : Bytes → Except DecodeError α)
    (d : ResponseDocument) (legible : Legible d.element.tag) :
    decode payload d.octets =
      if ErrorLegible d.element.inner then
        (payload (wrapResponse d.element.inner.octets)).map fun body =>
          { kind := attributeText "type" d.element.tag
            id := attributeText "id" d.element.tag
            body }
      else .error .malformed := by
  rw [decode, decode_frame, responseAttributes_legible legible, findXmsg_eq]
  split
  · show (payload (wrapResponse d.element.inner.octets) >>= fun body => Except.ok _) = _
    cases payload (wrapResponse d.element.inner.octets) <;> rfl
  · rfl

/-- A statistics response is read as its payload, wrapped in a tag of its own, whatever structured
error stands beside it, as long as that error can be read; nobody ever gets to see it. -/
theorem decode_beside_error {α : Type} (payload : Bytes → Except DecodeError α)
    (d : ResponseDocument) (legible : Legible d.element.tag) :
    decode payload d.octets =
        (if ErrorLegible d.element.inner then
          (payload (wrapResponse d.element.inner.octets)).map fun body =>
            { kind := attributeText "type" d.element.tag
              id := attributeText "id" d.element.tag
              body }
        else .error .malformed) ∧
      ∀ request body xmsg,
        (Call.stat payload request).interpret body ≠ .error (.application xmsg) ∧
        (Call.statOf payload request).interpret body ≠ .error (.application xmsg) := by
  constructor
  · exact decode_of_legible payload d legible
  · intro request body xmsg
    simp only [Call.stat, Call.statOf, Call.decoding]
    cases decode payload body with
    | error error => exact ⟨nofun, nofun⟩
    | ok response => exact ⟨nofun, nofun⟩

end StatResponse

theorem stands_rootTag : (Lexeme.startTag (utf8 "ajax-response")).Stands := by decide +kernel

theorem stands_rootClose : (Lexeme.endTag (utf8 "ajax-response")).Stands := by decide +kernel

theorem stands_responseTag :
    (Lexeme.startTag (utf8 "response type=\"object\" id=\"x\"")).Stands := by decide +kernel

theorem stands_responseClose : (Lexeme.endTag (utf8 "response")).Stands := by decide +kernel

theorem rootTag_matched : endName (utf8 "ajax-response") = tagName (utf8 "ajax-response") := by
  decide +kernel

theorem blank_others :
    ∀ tag ∈ Fragment.blank.content.tags, localName (tagName tag) ≠ utf8 "response" := nofun

theorem blank_undeclared :
    ∀ body, .instruction body ∈ Misc.blank.lexemes → isDeclaration body = false := nofun

/-- A root with nothing in it. -/
def bareRoot : TagPair where
  tag := utf8 "ajax-response"
  close := utf8 "ajax-response"
  opens := stands_rootTag
  closes := stands_rootClose
  matched := rootTag_matched

/-- The tags of an element that gives its type and its number. -/
def bareTags : TagPair where
  tag := utf8 "response type=\"object\" id=\"x\""
  close := utf8 "response"
  opens := stands_responseTag
  closes := stands_responseClose
  matched := by decide +kernel

/-- A response with nothing around it but its root. -/
def ResponseDocument.bare (inner : Fragment) : ResponseDocument where
  prolog := .blank
  root := bareRoot
  before := .blank
  element := .full bareTags inner
  after := .blank
  tail := .blank
  rootNamed := by decide +kernel
  others := blank_others
  named := show localName (tagName bareTags.tag) = utf8 "response" by decide +kernel
  undeclared := blank_undeclared

theorem ResponseDocument.legible_bare (inner : Fragment) : Legible (bare inner).element.tag := by
  show Legible bareTags.tag
  decide +kernel

namespace StatResponse

/-- A structured error that can be read. -/
def busyError : Fragment :=
  .empty (utf8 "xmsg msg=\"busy\"") (by decide +kernel)

theorem decode_beside_error_busy :
    Legible (ResponseDocument.bare busyError).element.tag ∧
      decode (Payload.decode WlanStatus.shape) (ResponseDocument.bare busyError).octets =
        .ok ⟨"object", "x", {}⟩ := by
  have legible := ResponseDocument.legible_bare busyError
  refine ⟨legible, ?_⟩
  rw [(decode_beside_error _ (.bare busyError) legible).1]
  decide +kernel

/-- A structured error that refers to what is not known. -/
def unreadableError : Fragment :=
  .empty (utf8 "xmsg msg=\"&busy;\"") (by decide +kernel)

/-- An error that is of no interest, but cannot be read, spoils a response. -/
theorem refused_for_error :
    Legible (ResponseDocument.bare unreadableError).element.tag ∧
      Payload.decode WlanStatus.shape (wrapResponse unreadableError.octets) = .ok {} ∧
      decode (Payload.decode WlanStatus.shape) (ResponseDocument.bare unreadableError).octets =
        .error .malformed := by
  refine ⟨ResponseDocument.legible_bare unreadableError, ?_, ?_⟩ <;> decide +kernel

end StatResponse
end WlanAdmin
