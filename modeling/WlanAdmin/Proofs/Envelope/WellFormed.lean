import WlanAdmin.Client.Call
import WlanAdmin.Proofs.Envelope.Depth
import WlanAdmin.Proofs.Envelope.Truncation

/-!
# WlanAdmin.Proofs.Envelope.WellFormed

Which documents pass the check of their form: those that can be read to the end with every start tag
matched by its end tag, and with an element. Every XML document is one of them, but so is anything
that holds more than one element at the top, or text beside them.

* `checkWellFormed_of_reads`, `reads_of_checkWellFormed` : what passes has been read to its end.
* `Balanced.IsDocument` : content that is the content of one XML document.
* `checkWellFormed_of_decode` : every response that is read passes.
* `checkWellFormed_ok_iff` : what passes the check.
-/

namespace WlanAdmin.Xml

namespace Lexeme

/-- What may stand outside the root of a document: blanks, comments, instructions, a declaration and
a document type. -/
def IsOutside : Lexeme → Prop
  | .text content => content.all isBlank = true
  | .comment _ | .instruction _ | .doctype _ => True
  | _ => False

instance : (lexeme : Lexeme) → Decidable lexeme.IsOutside
  | .text content => inferInstanceAs (Decidable (content.all isBlank = true))
  | .comment _ | .instruction _ | .doctype _ => .isTrue trivial
  | .reference _ | .cdata _ | .startTag _ | .emptyTag _ | .endTag _ => .isFalse nofun

end Lexeme

namespace Balanced

/-- What stands beside the elements at the top. -/
def leaves : Balanced → List Lexeme
  | nil => []
  | leaf first _ rest => first :: rest.leaves
  | empty _ rest => rest.leaves
  | element _ _ _ _ rest => rest.leaves

/-- The content of one XML document: one element at the top, and beside it only what may stand
outside the root. -/
structure IsDocument (content : Balanced) : Prop where
  root : content.tags.length = 1
  outside : ∀ lexeme ∈ content.leaves, lexeme.IsOutside

end Balanced
end WlanAdmin.Xml

namespace WlanAdmin

open Xml

/-! ## Documents that are read to their end -/

/-- A document that is read to its end passes exactly if there is an element in it. -/
theorem checkWellFormed_of_reads {document : Bytes} {content : Balanced}
    (reads : Xml.Reads (withoutMark document) content.lexemes) :
    checkWellFormed document = .ok () ↔ content.tags ≠ [] := by
  have found : read document = ⟨(Unfinished.top content).lexemes, true⟩ := read_eq reads
  rw [checkWellFormed_passes_iff found, Unfinished.lexemes, content.any_element]
  simp [Unfinished.depth]

/-- A document that passes is read to its end, every start tag matched by its end tag. -/
theorem reads_of_checkWellFormed {document : Bytes} (h : checkWellFormed document = .ok ()) :
    ∃ content : Balanced, Xml.Reads (withoutMark document) content.lexemes := by
  obtain ⟨u, complete, found⟩ := read_unfinished document
  obtain rfl : complete = true := by
    have whole := complete_of_checkWellFormed h
    rwa [found] at whole
  obtain ⟨level, -⟩ := (checkWellFormed_passes_iff found).mp h
  cases u with
  | top content => exact ⟨content, read_complete found⟩
  | inside before tag inner => simp [Unfinished.depth] at level

/-! ## What the reader of responses accepts -/

theorem exists_leaves {lexemes : List Lexeme} (plain : ∀ lexeme ∈ lexemes, lexeme.IsLeaf)
    (rest : Balanced) : ∃ content : Balanced,
      content.lexemes = lexemes ++ rest.lexemes ∧ content.tags = rest.tags := by
  induction lexemes with
  | nil => exact ⟨rest, rfl, rfl⟩
  | cons first others ih =>
    obtain ⟨plain, others_plain⟩ := List.forall_mem_cons.mp plain
    obtain ⟨content, same, tags⟩ := ih others_plain
    exact ⟨.leaf first plain content, congrArg (first :: ·) same, tags⟩

/-- A response that is accepted has one element at the top, its root. -/
theorem reads_of_decode {document : Bytes} {response : ResponseEnvelope}
    (accepted : ResponseEnvelope.decode document = .ok response) :
    ∃ content : Balanced, Xml.Reads (withoutMark document) content.lexemes ∧
      content.tags.length = 1 := by
  obtain ⟨root, tail, reads, misc, -⟩ := ResponseEnvelope.decode_settled accepted
  obtain ⟨behind, after, none_behind⟩ :=
    exists_leaves (fun lexeme mem => (misc lexeme mem).isLeaf) .nil
  obtain ⟨whole, lexemes, tags⟩ :=
    exists_leaves root.plain (.element root.tag root.content root.close root.matched behind)
  refine ⟨whole, ?_, ?_⟩
  · rw [lexemes, Balanced.lexemes, after]
    simpa [ResponseEnvelope.RootElement.lexemes, Balanced.lexemes] using reads
  · rw [tags, Balanced.tags, none_behind]
    rfl

/-- What the readers of responses accept passes the check that the echo of a command has to pass,
with and without a payload in it: all of it has been read, nothing is left open, and there is one
element at the top. -/
theorem checkWellFormed_of_decode (document : Bytes) :
    (∀ response, ResponseEnvelope.decode document = .ok response →
      checkWellFormed document = .ok () ∧ ∃ content : Balanced,
        Xml.Reads (withoutMark document) content.lexemes ∧ content.tags.length = 1) ∧
    ∀ {α : Type} (payload : Bytes → Except DecodeError α) response,
      StatResponse.decode payload document = .ok response →
        checkWellFormed document = .ok () ∧ ∃ content : Balanced,
          Xml.Reads (withoutMark document) content.lexemes ∧ content.tags.length = 1 := by
  have envelope : ∀ response, ResponseEnvelope.decode document = .ok response →
      checkWellFormed document = .ok () ∧ ∃ content : Balanced,
        Xml.Reads (withoutMark document) content.lexemes ∧ content.tags.length = 1 := by
    intro response accepted
    obtain ⟨content, reads, single⟩ := reads_of_decode accepted
    have any : content.tags ≠ [] := List.ne_nil_of_length_eq_add_one single
    exact ⟨(checkWellFormed_of_reads reads).mpr any, content, reads, single⟩
  refine ⟨envelope, fun payload response accepted => ?_⟩
  obtain ⟨inner, read, -⟩ := ResponseEnvelope.bind_eq_ok accepted
  exact envelope inner read

/-- Statistics with a declaration, a `response` inside the one of interest, an end tag in a comment
and in a section, and a comment behind the root. -/
theorem checkWellFormed_of_decode_nested :
    let document := utf8 ("<?xml version=\"1.0\"?><ajax-response><response type=\"object\" id=\"1\">" ++
      "<response/><!--</response>--><![CDATA[</response>]]></response></ajax-response><!-- > -->")
    (StatResponse.decode .ok document).toOption.map StatResponse.id = some "1" ∧
      checkWellFormed document = .ok () := by
  intro document
  have given : (StatResponse.decode .ok document).toOption.map StatResponse.id = some "1" := by
    decide +kernel
  refine ⟨given, ?_⟩
  cases read : StatResponse.decode .ok document with
  | error error => rw [read] at given; cases given
  | ok response => exact ((checkWellFormed_of_decode document).2 _ response read).1

/-! ## What passes -/

/-- Content with an element is that of one document, or it holds too much. -/
theorem not_isDocument_iff {content : Balanced} (any : content.tags ≠ []) :
    ¬ content.IsDocument ↔
      1 < content.tags.length ∨ ∃ lexeme ∈ content.leaves, ¬ lexeme.IsOutside := by
  have some_tag : 0 < content.tags.length := List.length_pos_iff.mpr any
  constructor
  · intro more
    by_cases single : content.tags.length = 1
    · refine .inr (Classical.byContradiction fun none_stray => more ⟨single, fun lexeme mem => ?_⟩)
      exact Classical.byContradiction fun stray => none_stray ⟨lexeme, mem, stray⟩
    · exact .inl (by omega)
  · rintro (several | ⟨lexeme, mem, stray⟩) ⟨single, outside⟩
    · omega
    · exact stray (outside lexeme mem)

/-- A document passes the check of its form exactly if it can be read to the end, every start tag
matched by its end tag, and has an element at the top. So every XML document passes, and every
response that is accepted; but of what passes, it is not an XML document if it has a second element
at the top, or anything else there that may not stand outside the root. The echo of a command is
accepted if it passes, and refused as not readable otherwise. -/
theorem checkWellFormed_ok_iff (document : Bytes) :
    (checkWellFormed document = .ok () ↔
      ∃ content : Balanced, Xml.Reads (withoutMark document) content.lexemes ∧ content.tags ≠ []) ∧
    (∀ content : Balanced, Xml.Reads (withoutMark document) content.lexemes →
      (content.IsDocument → checkWellFormed document = .ok ()) ∧
      (checkWellFormed document = .ok () → (¬ content.IsDocument ↔
        1 < content.tags.length ∨ ∃ lexeme ∈ content.leaves, ¬ lexeme.IsOutside))) ∧
    (∀ response, ResponseEnvelope.decode document = .ok response →
      checkWellFormed document = .ok ()) ∧
    ∀ envelope : RequestEnvelope,
      ((Call.command envelope).interpret document = .ok () ↔ checkWellFormed document = .ok ()) ∧
      ∀ error, (Call.command envelope).interpret document = .error error →
        ∃ cause, error = .decode cause := by
  refine ⟨⟨fun passes => ?_, fun ⟨content, reads, any⟩ => ?_⟩, fun content reads => ⟨?_, ?_⟩,
    fun response accepted => ?_, fun envelope => ?_⟩
  · obtain ⟨content, reads⟩ := reads_of_checkWellFormed passes
    exact ⟨content, reads, (checkWellFormed_of_reads reads).mp passes⟩
  · exact (checkWellFormed_of_reads reads).mpr any
  · intro single
    exact (checkWellFormed_of_reads reads).mpr fun none_there => by
      have := single.root
      rw [none_there] at this
      cases this
  · exact fun passes => not_isDocument_iff ((checkWellFormed_of_reads reads).mp passes)
  · obtain ⟨content, reads, single⟩ := reads_of_decode accepted
    refine (checkWellFormed_of_reads reads).mpr fun none_there => ?_
    rw [none_there] at single
    cases single
  · simp only [Call.command, Call.decoding]
    cases checkWellFormed document with
    | ok done => exact ⟨by simp, nofun⟩
    | error cause => exact ⟨by simp, fun error failed => ⟨cause, by cases failed; rfl⟩⟩

/-- Two elements with text between them pass, also as the echo of a command, and are no document;
nor is a response with text behind its root, which the reader of responses refuses. -/
theorem checkWellFormed_two_roots :
    let document := utf8 "<a/>x<b/>"
    let response := utf8 "<ajax-response><response/></ajax-response>"
    checkWellFormed document = .ok () ∧
      (∀ envelope, (Call.command envelope).interpret document = .ok ()) ∧
      (∀ content : Balanced, Xml.Reads (withoutMark document) content.lexemes →
        ¬ content.IsDocument) ∧
      checkWellFormed (response ++ utf8 "x") = .ok () ∧
      (ResponseEnvelope.decode response).toOption.isSome ∧
      (ResponseEnvelope.decode (response ++ utf8 "x")).toOption = none := by
  intro document response
  let two : Balanced :=
    .empty (utf8 "a") (.leaf (.text (utf8 "x")) trivial (.empty (utf8 "b") .nil))
  have reads_two : Xml.Reads (withoutMark document) two.lexemes := by decide +kernel
  let followed : Balanced := .element (utf8 "ajax-response") (.empty (utf8 "response") .nil)
    (utf8 "ajax-response") (by decide +kernel) (.leaf (.text (utf8 "x")) trivial .nil)
  have reads_followed : Xml.Reads (withoutMark (response ++ utf8 "x")) followed.lexemes := by
    decide +kernel
  have passes : checkWellFormed document = .ok () :=
    (checkWellFormed_of_reads reads_two).mpr (List.cons_ne_nil _ _)
  refine ⟨passes, fun envelope => ?_, fun content reads single => ?_,
    (checkWellFormed_of_reads reads_followed).mpr (List.cons_ne_nil _ _), by decide +kernel,
    by decide +kernel⟩
  · simp only [Call.command, Call.decoding, passes]
  · have same : content.lexemes = two.lexemes :=
      congrArg Lexemes.all (reads.symm.trans reads_two)
    obtain ⟨root, outside⟩ := single
    cases content with
    | nil => cases same
    | leaf first plain rest =>
      cases (List.cons.inj same).1
      exact plain
    | element tag inner close matched rest => cases same
    | empty tag rest =>
      have later := (List.cons.inj same).2
      cases rest with
      | nil => cases later
      | leaf first plain rest =>
        cases (List.cons.inj later).1
        exact absurd (outside _ List.mem_cons_self) (by decide +kernel)
      | element tag inner close matched rest => cases later
      | empty tag rest => cases later

end WlanAdmin
