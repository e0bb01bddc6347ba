import WlanAdmin.Proofs.Envelope.Depth
import WlanAdmin.Proofs.Envelope.Truncation

/-!
# WlanAdmin.Proofs.Envelope.Root

Which errors are about the root of a response. They are settled by the first element of a document
and the children of that element; whatever goes wrong later on is another error.

* `decode_aboutRoot_iff`     : errors about the root are those of the two searches.
* `findResponse_missing_iff` : the search among the children ends in vain.
* `decode_first`             : an error about the root is settled by the first element.
* `decode_root_error`        : when the root is refused, and when a child of it is missed.
* `decode_short_root`        : a root in its short form is refused under its own name.
-/

namespace WlanAdmin

/-- The error is about the root of a response, or about a child of it. -/
def DecodeError.AboutRoot : DecodeError → Prop
  | .emptyDocument | .unexpectedRoot _ | .missingResponse => True
  | _ => False

namespace ResponseEnvelope

open Xml

/-! ## Errors behind the tag of interest -/

theorem responseAttributes_error {body : Bytes} {error : DecodeError}
    (h : responseAttributes body = .error error) : error = .malformed := by
  rcases bind_eq_error h with failed | ⟨attrs, -, h⟩
  · exact resolveAttributes_error failed
  · cases h

theorem xmsgOfTag_error {body : Bytes} {error : DecodeError}
    (h : xmsgOfTag body = .error error) : error = .malformed := by
  rcases bind_eq_error h with failed | ⟨attrs, -, h⟩
  · exact resolveAttributes_error failed
  · cases h

theorem findXmsgTag_error {depth : Nat} {lexemes : List Lexeme} {complete : Bool}
    {error : DecodeError} (h : findXmsgTag depth lexemes complete = .error error) :
    error = .malformed := by
  fun_induction findXmsgTag depth lexemes complete <;> simp_all

theorem findXmsg_error {raw : Bytes} {error : DecodeError} (h : findXmsg raw = .error error) :
    error = .malformed := by
  rcases bind_eq_error h with failed | ⟨tag, -, h⟩
  · exact findXmsgTag_error failed
  · cases tag with
    | none => cases h
    | some body =>
      rcases bind_eq_error h with failed | ⟨xmsg, -, h⟩
      · exact xmsgOfTag_error failed
      · cases h

theorem closeDocument_error {lexemes : List Lexeme} {complete : Bool} {error : DecodeError}
    (h : closeDocument lexemes complete = .error error) :
    error = .malformed ∨ error = .contentAfterRoot := by
  fun_induction closeDocument lexemes complete <;> simp_all

theorem closeRoot_error {depth : Nat} {lexemes : List Lexeme} {complete : Bool}
    {error : DecodeError} (h : closeRoot depth lexemes complete = .error error) :
    error = .unclosedRoot ∨ error = .malformed ∨ error = .contentAfterRoot := by
  fun_induction closeRoot depth lexemes complete with
  | case1 complete => cases complete <;> simp_all
  | case2 => simp_all
  | case4 => exact .inr (closeDocument_error h)
  | _ => simp_all

theorem closeRoot_not_aboutRoot {depth : Nat} {lexemes : List Lexeme} {complete : Bool}
    {error : DecodeError} (h : closeRoot depth lexemes complete = .error error) :
    ¬ error.AboutRoot := by
  rcases closeRoot_error h with rfl | rfl | rfl <;> exact not_false

theorem decodeFull_not_aboutRoot {document : Bytes} {all rest : List Lexeme} {body : Bytes}
    {complete : Bool} {error : DecodeError}
    (h : decodeFull document all rest body complete = .error error) : ¬ error.AboutRoot := by
  rcases bind_eq_error h with failed | ⟨⟨kind, id⟩, -, h⟩
  · rw [responseAttributes_error failed]
    exact not_false
  · simp only at h
    split at h
    · cases h
      exact not_false
    · rcases bind_eq_error h with failed | ⟨xmsg, -, h⟩
      · rw [findXmsg_error failed]
        exact not_false
      · rcases bind_eq_error h with failed | ⟨_, -, h⟩
        · exact closeRoot_not_aboutRoot failed
        · cases h

theorem decodeShort_not_aboutRoot {rest : List Lexeme} {body : Bytes} {complete : Bool}
    {error : DecodeError} (h : decodeShort rest body complete = .error error) :
    ¬ error.AboutRoot := by
  rcases bind_eq_error h with failed | ⟨⟨kind, id⟩, -, h⟩
  · rw [responseAttributes_error failed]
    exact not_false
  · rcases bind_eq_error h with failed | ⟨_, -, h⟩
    · exact closeRoot_not_aboutRoot failed
    · cases h

/-- Once the tag of interest is found, no error is about the root any more. -/
theorem decodeInside_aboutRoot_iff {document : Bytes} {all inRoot : List Lexeme} {complete : Bool}
    {error : DecodeError} (about : error.AboutRoot) :
    decodeInside document all inRoot complete = .error error ↔
      findResponse 0 inRoot complete = .error error := by
  constructor
  · intro h
    rcases bind_eq_error h with failed | ⟨⟨tag, rest⟩, found, -⟩
    · exact failed
    · obtain ⟨before, rfl, ⟨body, rfl | rfl⟩, finds⟩ := findResponse_ok found
      · rw [finds.decodeInside_full] at h
        exact absurd about (decodeFull_not_aboutRoot h)
      · rw [finds.decodeInside_short] at h
        exact absurd about (decodeShort_not_aboutRoot h)
  · intro h
    rw [decodeInside, h]
    rfl

/-- Errors about the root come from the search for the root or from the one among its children. -/
theorem decode_aboutRoot_iff {document : Bytes} {error : DecodeError} (about : error.AboutRoot) :
    decode document = .error error ↔
      findRoot (read document).all (read document).complete = .error error ∨
      ∃ inRoot, findRoot (read document).all (read document).complete = .ok inRoot ∧
        findResponse 0 inRoot (read document).complete = .error error := by
  rw [decode_eq]
  constructor
  · intro h
    rcases bind_eq_error h with failed | ⟨inRoot, found, h⟩
    · exact .inl failed
    · exact .inr ⟨inRoot, found, (decodeInside_aboutRoot_iff about).mp h⟩
  · rintro (failed | ⟨inRoot, found, missed⟩)
    · rw [failed]
      rfl
    · rw [found]
      exact (decodeInside_aboutRoot_iff about).mpr missed

/-! ## The children of the root -/

theorem findResponse_found (content : Balanced)
    (found : ∃ tag ∈ content.tags, localName (tagName tag) = utf8 "response") (rest : List Lexeme)
    (complete : Bool) : ∃ tag, findResponse 0 (content.lexemes ++ rest) complete = .ok tag := by
  induction content with
  | nil =>
    obtain ⟨_, mem, -⟩ := found
    cases mem
  | leaf first plain more ih =>
    rw [Balanced.lexemes, List.cons_append, findResponse_leaf plain]
    exact ih found
  | empty tag more ih =>
    rw [Balanced.lexemes, List.cons_append, findResponse]
    split
    · exact ⟨_, rfl⟩
    · obtain ⟨other, mem, named⟩ := found
      rcases List.mem_cons.mp mem with rfl | mem
      · contradiction
      · exact ih ⟨other, mem, named⟩
  | element tag inner close matched more _ ih =>
    rw [Balanced.lexemes, List.cons_append, List.append_assoc, List.cons_append, findResponse]
    split
    · exact ⟨_, rfl⟩
    · obtain ⟨other, mem, named⟩ := found
      rcases List.mem_cons.mp mem with rfl | mem
      · contradiction
      · rw [findResponse_inside, findResponse]
        exact ih ⟨other, mem, named⟩

/-- Inside a child of the root that is not closed the search ends with the document. -/
theorem findResponse_unfinished (u : Unfinished) (depth : Nat) (complete : Bool) :
    findResponse (depth + 1) u.lexemes complete = .error .malformed := by
  induction u generalizing depth with
  | top content =>
    have inside := findResponse_inside content depth [] complete
    rwa [List.append_nil] at inside
  | inside before tag inner ih =>
    rw [Unfinished.lexemes, findResponse_inside, findResponse, ih]

/-- The children of the root have been read, and none of them is a `response`. -/
def LacksResponse (inRoot : List Lexeme) (complete : Bool) : Prop :=
  ∃ content : Balanced, (∀ tag ∈ content.tags, localName (tagName tag) ≠ utf8 "response") ∧
    (inRoot = content.lexemes ∧ complete = true ∨
      ∃ close after, inRoot = content.lexemes ++ .endTag close :: after)

theorem findResponse_missing_iff {name : Bytes} {inRoot : List Lexeme} (opened : Opened name inRoot)
    (complete : Bool) :
    findResponse 0 inRoot complete = .error .missingResponse ↔ LacksResponse inRoot complete := by
  constructor
  · intro missed
    have others (content : Balanced) (rest : List Lexeme)
        (parts : inRoot = content.lexemes ++ rest) :
        ∀ tag ∈ content.tags, localName (tagName tag) ≠ utf8 "response" := by
      intro tag mem named
      obtain ⟨_, found⟩ := findResponse_found content ⟨tag, mem, named⟩ rest complete
      rw [← parts, missed] at found
      cases found
    cases opened with
    | closed content matched after => exact ⟨content, others content _ rfl, .inr ⟨_, after, rfl⟩⟩
    | unclosed inner =>
      cases inner with
      | top content =>
        have none_here := others content [] (List.append_nil _).symm
        have searched := findResponse_content content [] complete none_here
        rw [List.append_nil] at searched
        rw [Unfinished.lexemes, searched] at missed
        cases complete with
        | true => exact ⟨content, none_here, .inl ⟨rfl, rfl⟩⟩
        | false => cases missed
      | inside before tag inner =>
        have searched := findResponse_content before (.startTag tag :: inner.lexemes) complete
          (others before _ rfl)
        rw [Unfinished.lexemes, searched, findResponse] at missed
        split at missed
        · cases missed
        · rw [findResponse_unfinished] at missed
          cases missed
  · rintro ⟨content, others, ⟨rfl, rfl⟩ | ⟨close, after, rfl⟩⟩
    · have searched := findResponse_content content [] true others
      rwa [List.append_nil] at searched
    · exact findResponse_content content _ complete others

theorem findResponse_error {depth : Nat} {lexemes : List Lexeme} {complete : Bool}
    {error : DecodeError} (h : findResponse depth lexemes complete = .error error) :
    error = .missingResponse ∨ error = .malformed := by
  fun_induction findResponse depth lexemes complete with
  | case1 complete => cases complete <;> simp_all
  | _ => simp_all

/-- An error about the root is settled by the first element. -/
theorem decode_first {document : Bytes} (root : FirstElement (read document).all)
    {error : DecodeError} (about : error.AboutRoot) :
    decode document = .error error ↔
      if root.short = false ∧ NamedAsRoot root then
        findResponse 0 root.rest (read document).complete = .error error
      else error = .unexpectedRoot (shownName root) := by
  rw [decode_aboutRoot_iff about, findRoot_first root]
  split
  · constructor
    · rintro (failed | ⟨inRoot, found, missed⟩)
      · cases failed
      · cases found
        exact missed
    · intro missed
      exact .inr ⟨root.rest, rfl, missed⟩
  · constructor
    · rintro (failed | ⟨inRoot, found, -⟩)
      · cases failed
        rfl
      · cases found
    · rintro rfl
      exact .inl rfl

section First

variable {document : Bytes} (root : FirstElement (read document).all)

include root

theorem decode_unexpectedRoot_iff (name : String) :
    decode document = .error (.unexpectedRoot name) ↔
      ¬ (root.short = false ∧ NamedAsRoot root) ∧ name = shownName root := by
  rw [decode_first root (by trivial)]
  split
  · rename_i stands
    constructor
    · intro missed
      rcases findResponse_error missed with other | other <;> cases other
    · rintro ⟨refused, -⟩
      exact absurd stands refused
  · rename_i refused
    simp [refused]

theorem decode_missingResponse_iff :
    decode document = .error .missingResponse ↔
      root.short = false ∧ NamedAsRoot root ∧ LacksResponse root.rest (read document).complete := by
  rw [decode_first root (by trivial)]
  split
  · rename_i stands
    rw [findResponse_missing_iff (root.opened stands.1)]
    simp [stands]
  · rename_i refused
    constructor
    · intro other
      cases other
    · rintro ⟨full, named, -⟩
      exact absurd ⟨full, named⟩ refused

theorem decode_ne_emptyDocument : decode document ≠ .error .emptyDocument := by
  rw [Ne, decode_first root (by trivial)]
  split
  · intro missed
    rcases findResponse_error missed with other | other <;> cases other
  · intro other
    cases other

end First

/-- The first element is refused as the root if its name is another than that of a root, or it has
the short form. Of any other root a `response` is missed if it has been read to its end and no
child is one. These are all the errors about the root, once there is an element. -/
theorem decode_root_error {document : Bytes}
    (any : ∃ lexeme ∈ (read document).all, lexeme.isElement = true) :
    ∃ root : FirstElement (read document).all,
      (∀ name, decode document = .error (.unexpectedRoot name) ↔
        ¬ (root.short = false ∧ NamedAsRoot root) ∧ name = shownName root) ∧
      (decode document = .error .missingResponse ↔
        root.short = false ∧ NamedAsRoot root ∧ LacksResponse root.rest (read document).complete) ∧
      decode document ≠ .error .emptyDocument := by
  rcases read_first_or document with leaves | ⟨⟨root⟩⟩
  · obtain ⟨lexeme, mem, element⟩ := any
    rw [(leaves lexeme mem).plain.2.2] at element
    cases element
  exact ⟨root, decode_unexpectedRoot_iff root, decode_missingResponse_iff root,
    decode_ne_emptyDocument root⟩

/-- A prefixed root behind a comment, with a `response` that is not a child of it. -/
theorem decode_root_error_nested :
    let document := utf8 "<!-- <a> --><x:ajax-response><a><response/></a></x:ajax-response>"
    (∃ lexeme ∈ (read document).all, lexeme.isElement = true) ∧
      decode document = .error .missingResponse ∧
      ∃ root : FirstElement (read document).all, root.short = false ∧ NamedAsRoot root ∧
        LacksResponse root.rest (read document).complete := by
  intro document
  have any : ∃ lexeme ∈ (read document).all, lexeme.isElement = true := by decide +kernel
  have missed : decode document = .error .missingResponse := by decide +kernel
  obtain ⟨root, -, missing, -⟩ := decode_root_error any
  exact ⟨any, missed, root, missing.mp missed⟩

/-- A root in its short form is named as a root is, has no child and is read to its end; it is
refused for its name all the same, where the full form misses a `response`. -/
theorem decode_short_root :
    let short := utf8 "<ajax-response/>"
    (read short).all = [.emptyTag (utf8 "ajax-response")] ∧ (read short).complete = true ∧
      localName (tagName (utf8 "ajax-response")) = utf8 "ajax-response" ∧
      decode short = .error (.unexpectedRoot "ajax-response") ∧
      decode short ≠ .error .missingResponse ∧
      (DecodeError.unexpectedRoot "ajax-response").message? =
        some "unexpected root element <ajax-response>" ∧
      decode (utf8 "<ajax-response></ajax-response>") = .error .missingResponse := by
  intro short
  refine ⟨?_, ?_, ?_, ?_, ?_, ?_, ?_⟩ <;> decide +kernel

end ResponseEnvelope
end WlanAdmin
