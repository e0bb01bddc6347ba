import WlanAdmin.Proofs.Envelope.Decode
import WlanAdmin.Proofs.Xml.Matched

/-!
# WlanAdmin.Proofs.Envelope.Truncation

Responses that are cut off, or have something behind them. What is read of a response is settled
where its root ends, and nothing is read of one whose root does not.

* `splitElement_some`, `findResponse_ok`, `closeRoot_ok` : what has been passed over decides, and
  not what follows it.
* `decodeInside_settled` : what is read inside the root is settled at its end tag.
* `findRoot_first`, `first_of_findRoot` : the root is the first element.
* `RootElement`, `decode_settled` : an accepted response in its parts.
* `RootElement.read_longer` : a longer document has the same root.
* `decode_truncated` : what becomes of a response that is cut off, or has something behind it.
-/

namespace WlanAdmin.ResponseEnvelope

open Xml

/-! ## What has been passed over -/

/-- A lexeme that takes the walks over an element from one depth to another, whatever is open around
them. -/
structure Passes (first : Lexeme) (depth deeper : Nat) : Prop where
  split : ∀ above rest, splitElement (depth + above) (first :: rest) =
    (splitElement (deeper + above) rest).map fun (inner, after) => (first :: inner, after)
  close : ∀ rest complete, closeRoot depth (first :: rest) complete = closeRoot deeper rest complete

theorem passes_startTag (body : Bytes) (depth : Nat) :
    Passes (.startTag body) depth (depth + 1) where
  split above rest := by rw [Nat.add_right_comm, splitElement]
  close rest complete := by rw [closeRoot]

theorem passes_endTag (body : Bytes) (depth : Nat) :
    Passes (.endTag body) (depth + 1) depth where
  split above rest := by rw [Nat.add_right_comm, splitElement]
  close rest complete := by rw [closeRoot]

theorem passes_other {first : Lexeme} (not_start : ∀ body, first ≠ .startTag body)
    (not_end : ∀ body, first ≠ .endTag body) (depth : Nat) : Passes first depth depth := by
  refine ⟨fun above rest => ?_, fun rest complete => ?_⟩
  · rw [splitElement]
    · exact not_start
    · exact fun body _ => not_end body
    · exact fun _ body _ => not_end body
  · rw [closeRoot]
    · exact not_start
    · exact fun body _ => not_end body
    · exact fun _ body _ => not_end body

theorem Passes.split_eq {first : Lexeme} {depth deeper : Nat} (passes : Passes first depth deeper)
    (rest : List Lexeme) : splitElement depth (first :: rest) =
      (splitElement deeper rest).map fun (inner, after) => (first :: inner, after) :=
  passes.split 0 rest

/-- Every lexeme but the end tag of the element itself is passed. -/
theorem passes_or_ends (first : Lexeme) (depth : Nat) :
    (∃ deeper, Passes first depth deeper) ∨ depth = 0 ∧ ∃ close, first = .endTag close := by
  cases first with
  | startTag body => exact .inl ⟨_, passes_startTag body depth⟩
  | endTag body =>
    cases depth with
    | zero => exact .inr ⟨rfl, body, rfl⟩
    | succ depth => exact .inl ⟨_, passes_endTag body depth⟩
  | _ => exact .inl ⟨_, passes_other (by nofun) (by nofun) depth⟩

/-- Lexemes that are the content of an element, with its end tag. -/
structure Closes (depth : Nat) (inner : List Lexeme) (close : Bytes) : Prop where
  split : ∀ other, splitElement depth (inner ++ .endTag close :: other) = some (inner, other)
  /-- With further elements open around it, the element is a descendant. -/
  within : ∀ above other, splitElement (depth + (above + 1)) (inner ++ .endTag close :: other) =
    (splitElement above other).map fun (more, last) => (inner ++ .endTag close :: more, last)
  root : ∀ other complete,
    closeRoot depth (inner ++ .endTag close :: other) complete = closeDocument other complete

theorem closes_nil (close : Bytes) : Closes 0 [] close where
  split other := by rw [List.nil_append, splitElement]
  within above other := by rw [List.nil_append, Nat.zero_add, splitElement]; rfl
  root other complete := by rw [List.nil_append, closeRoot]

theorem Closes.cons {first : Lexeme} {depth deeper : Nat} {inner : List Lexeme} {close : Bytes}
    (passes : Passes first depth deeper) (h : Closes deeper inner close) :
    Closes depth (first :: inner) close where
  split other := by
    rw [List.cons_append, passes.split_eq, h.split]
    rfl
  within above other := by
    rw [List.cons_append, passes.split, h.within, Option.map_map]
    rfl
  root other complete := by rw [List.cons_append, passes.close, h.root]

/-- Where an element is found to end, its content and its end tag have decided that. -/
theorem splitElement_some {depth : Nat} {lexemes inner after : List Lexeme}
    (h : splitElement depth lexemes = some (inner, after)) :
    ∃ close, lexemes = inner ++ .endTag close :: after ∧ Closes depth inner close := by
  induction lexemes generalizing depth inner with
  | nil => cases depth <;> cases h
  | cons first rest ih =>
    rcases passes_or_ends first depth with ⟨deeper, passes⟩ | ⟨rfl, close, rfl⟩
    · rw [passes.split_eq] at h
      obtain ⟨⟨found, _⟩, split, same⟩ := Option.map_eq_some_iff.mp h
      cases same
      obtain ⟨close, rfl, closes⟩ := ih split
      exact ⟨close, rfl, closes.cons passes⟩
    · rw [splitElement] at h
      cases h
      exact ⟨close, rfl, closes_nil close⟩

/-- Where the root is found to be closed, it ends as an element does. -/
theorem closeRoot_ok {depth : Nat} {lexemes : List Lexeme} {complete : Bool}
    (h : closeRoot depth lexemes complete = .ok ()) :
    ∃ inner close after, lexemes = inner ++ .endTag close :: after ∧ Closes depth inner close ∧
      closeDocument after complete = .ok () := by
  induction lexemes generalizing depth with
  | nil => cases depth <;> cases h
  | cons first rest ih =>
    rcases passes_or_ends first depth with ⟨deeper, passes⟩ | ⟨rfl, close, rfl⟩
    · rw [passes.close] at h
      obtain ⟨inner, close, after, rfl, closes, settled⟩ := ih h
      exact ⟨first :: inner, close, after, rfl, closes.cons passes, settled⟩
    · rw [closeRoot] at h
      exact ⟨[], close, rest, rfl, closes_nil close, h⟩

/-- Lexemes before the element of interest, and its tag. -/
structure Finds (depth : Nat) (before : List Lexeme) (tag : Lexeme) : Prop where
  find : ∀ other complete, findResponse depth (before ++ tag :: other) complete = .ok (tag, other)
  split : ∀ other, splitElement depth (before ++ other) =
    (splitElement 0 other).map fun (inner, after) => (before ++ inner, after)

theorem finds_nil {tag : Lexeme}
    (found : ∀ other complete, findResponse 0 (tag :: other) complete = .ok (tag, other)) :
    Finds 0 [] tag where
  find := found
  split other := by simp

theorem Finds.cons {first tag : Lexeme} {depth deeper : Nat} {before : List Lexeme}
    (passes : Passes first depth deeper)
    (found : ∀ rest complete, findResponse depth (first :: rest) complete =
      findResponse deeper rest complete) (h : Finds deeper before tag) :
    Finds depth (first :: before) tag where
  find other complete := by rw [List.cons_append, found, h.find]
  split other := by
    rw [List.cons_append, passes.split_eq, h.split, Option.map_map]
    rfl

/-- A lexeme before the element of interest is passed, or it is the tag of that element, or there is
none. -/
theorem findResponse_cases (first : Lexeme) (depth : Nat) :
    (∃ deeper, Passes first depth deeper ∧ ∀ rest complete,
      findResponse depth (first :: rest) complete = findResponse deeper rest complete) ∨
    (depth = 0 ∧ (∃ body, first = .startTag body ∨ first = .emptyTag body) ∧
      ∀ rest complete, findResponse 0 (first :: rest) complete = .ok (first, rest)) ∨
    ∀ rest complete, findResponse depth (first :: rest) complete = .error .missingResponse := by
  cases first with
  | startTag body =>
    cases depth with
    | zero =>
      by_cases named : localName (tagName body) = utf8 "response"
      · exact .inr (.inl ⟨rfl, ⟨body, .inl rfl⟩, fun rest complete => if_pos named⟩)
      · exact .inl ⟨1, passes_startTag body 0, fun rest complete => if_neg named⟩
    | succ depth => exact .inl ⟨_, passes_startTag body _, fun rest complete => rfl⟩
  | emptyTag body =>
    have passes : Passes (.emptyTag body) depth depth := passes_other (by nofun) (by nofun) depth
    cases depth with
    | zero =>
      by_cases named : localName (tagName body) = utf8 "response"
      · exact .inr (.inl ⟨rfl, ⟨body, .inr rfl⟩, fun rest complete => if_pos named⟩)
      · exact .inl ⟨0, passes, fun rest complete => if_neg named⟩
    | succ depth => exact .inl ⟨_, passes, fun rest complete => rfl⟩
  | endTag body =>
    cases depth with
    | zero => exact .inr (.inr fun rest complete => rfl)
    | succ depth => exact .inl ⟨_, passes_endTag body depth, fun rest complete => rfl⟩
  | _ =>
    refine .inl ⟨depth, passes_other (by nofun) (by nofun) depth, fun rest complete => ?_⟩
    exact findResponse_leaf (by trivial) depth rest complete

/-- Where the element of interest is found, what comes before it has decided that. -/
theorem findResponse_ok {depth : Nat} {lexemes rest : List Lexeme} {complete : Bool} {tag : Lexeme}
    (h : findResponse depth lexemes complete = .ok (tag, rest)) :
    ∃ before, lexemes = before ++ tag :: rest ∧
      (∃ body, tag = .startTag body ∨ tag = .emptyTag body) ∧ Finds depth before tag := by
  induction lexemes generalizing depth with
  | nil => cases depth <;> cases h
  | cons first others ih =>
    rcases findResponse_cases first depth with
      ⟨deeper, passes, found⟩ | ⟨rfl, opens, found⟩ | missing
    · rw [found] at h
      obtain ⟨before, rfl, opens, finds⟩ := ih h
      exact ⟨first :: before, rfl, opens, finds.cons passes found⟩
    · rw [found] at h
      cases h
      exact ⟨[], rfl, opens, finds_nil found⟩
    · rw [missing] at h
      cases h

/-! ## What is read inside the root -/

/-- What is read of an element of interest after its start tag. -/
def decodeFull (document : Bytes) (all rest : List Lexeme) (body : Bytes) (complete : Bool) :
    Except DecodeError ResponseEnvelope := do
  let (kind, id) ← responseAttributes body
  match splitElement 0 rest with
  | none => .error .malformed
  | some (inner, after) =>
    let raw := cut document all rest inner
    let error ← findXmsg raw
    closeRoot 0 after complete
    return ⟨kind, id, error, raw⟩

/-- What is read of an element of interest in its short form. -/
def decodeShort (rest : List Lexeme) (body : Bytes) (complete : Bool) :
    Except DecodeError ResponseEnvelope := do
  let (kind, id) ← responseAttributes body
  closeRoot 0 rest complete
  return ⟨kind, id, none, []⟩

/-- What is read once the root is open. -/
def decodeInside (document : Bytes) (all inRoot : List Lexeme) (complete : Bool) :
    Except DecodeError ResponseEnvelope := do
  let (tag, rest) ← findResponse 0 inRoot complete
  match tag with
  | .startTag body => decodeFull document all rest body complete
  | .emptyTag body => decodeShort rest body complete
  | _ => .error .missingResponse

theorem decode_eq (document : Bytes) :
    decode document = (do
      let inRoot ← findRoot (read document).all (read document).complete
      decodeInside document (read document).all inRoot (read document).complete) := rfl

theorem Finds.decodeInside_full {before : List Lexeme} {body : Bytes}
    (finds : Finds 0 before (.startTag body)) (document : Bytes) (all rest : List Lexeme)
    (complete : Bool) : decodeInside document all (before ++ .startTag body :: rest) complete =
      decodeFull document all rest body complete := by
  rw [decodeInside, finds.find]
  rfl

theorem Finds.decodeInside_short {before : List Lexeme} {body : Bytes}
    (finds : Finds 0 before (.emptyTag body)) (document : Bytes) (all rest : List Lexeme)
    (complete : Bool) : decodeInside document all (before ++ .emptyTag body :: rest) complete =
      decodeShort rest body complete := by
  rw [decodeInside, finds.find]
  rfl

/-- What is read of a full element is settled where the root ends, as long as its octets are cut out
of the same place. -/
theorem decodeFull_settled {document : Bytes} {all rest : List Lexeme} {body : Bytes}
    {complete : Bool} {response : ResponseEnvelope}
    (h : decodeFull document all rest body complete = .ok response) :
    ∃ inner close more last tail,
      rest = inner ++ .endTag close :: (more ++ .endTag last :: tail) ∧ Closes 0 inner close ∧
      Closes 0 more last ∧ closeDocument tail complete = .ok () ∧
      ∀ longer all' other complete',
        cut longer all' (inner ++ .endTag close :: (more ++ .endTag last :: other)) inner =
          cut document all (inner ++ .endTag close :: (more ++ .endTag last :: tail)) inner →
        decodeFull longer all' (inner ++ .endTag close :: (more ++ .endTag last :: other)) body
          complete' = (closeDocument other complete').map fun _ => response := by
  obtain ⟨⟨kind, id⟩, attributes, h⟩ := bind_eq_ok h
  cases split : splitElement 0 rest with
  | none =>
    simp only [split] at h
    cases h
  | some found =>
    obtain ⟨inner, after⟩ := found
    simp only [split] at h
    obtain ⟨error, errors, h⟩ := bind_eq_ok h
    obtain ⟨_, closed, h⟩ := bind_eq_ok h
    cases h
    obtain ⟨close, rfl, closes⟩ := splitElement_some split
    obtain ⟨more, last, tail, rfl, ends, settled⟩ := closeRoot_ok closed
    refine ⟨inner, close, more, last, tail, rfl, closes, ends, settled,
      fun longer all' other complete' same => ?_⟩
    simp only [decodeFull, attributes, bind, Except.bind, closes.split, same, errors, ends.root]
    cases closeDocument other complete' <;> rfl

theorem decodeShort_settled {rest : List Lexeme} {body : Bytes} {complete : Bool}
    {response : ResponseEnvelope} (h : decodeShort rest body complete = .ok response) :
    ∃ more last tail, rest = more ++ .endTag last :: tail ∧ Closes 0 more last ∧
      closeDocument tail complete = .ok () ∧
      ∀ other complete', decodeShort (more ++ .endTag last :: other) body complete' =
        (closeDocument other complete').map fun _ => response := by
  obtain ⟨⟨kind, id⟩, attributes, h⟩ := bind_eq_ok h
  obtain ⟨_, closed, h⟩ := bind_eq_ok h
  cases h
  obtain ⟨more, last, tail, rfl, ends, settled⟩ := closeRoot_ok closed
  refine ⟨more, last, tail, rfl, ends, settled, fun other complete' => ?_⟩
  simp only [decodeShort, attributes, bind, Except.bind, ends.root]
  cases closeDocument other complete' <;> rfl

/-- The content of the root: what comes before the element of interest, that element, and the
rest. -/
theorem split_full {before inner more : List Lexeme} {body close last : Bytes}
    (finds : Finds 0 before (.startTag body)) (closes : Closes 0 inner close)
    (ends : Closes 0 more last) (other : List Lexeme) :
    splitElement 0 (before ++ .startTag body :: (inner ++ .endTag close :: more) ++
        .endTag last :: other) =
      some (before ++ .startTag body :: (inner ++ .endTag close :: more), other) := by
  have inside : splitElement 1 (inner ++ .endTag close :: (more ++ .endTag last :: other)) =
      some (inner ++ .endTag close :: more, other) := by
    have nested := closes.within 0 (more ++ .endTag last :: other)
    rwa [ends.split] at nested
  rw [List.append_assoc, finds.split, List.cons_append, splitElement, List.append_assoc,
    List.cons_append, inside]
  rfl

theorem split_short {before more : List Lexeme} {body last : Bytes}
    (finds : Finds 0 before (.emptyTag body)) (ends : Closes 0 more last) (other : List Lexeme) :
    splitElement 0 (before ++ .emptyTag body :: more ++ .endTag last :: other) =
      some (before ++ .emptyTag body :: more, other) := by
  have passes : Passes (.emptyTag body) 0 0 := passes_other (by nofun) (by nofun) 0
  rw [List.append_assoc, finds.split, List.cons_append, passes.split_eq, ends.split]
  rfl

/-- What is read inside the root is settled at its end tag: whatever follows that, the same is read,
or there is an error because of what follows. -/
theorem decodeInside_settled {document : Bytes} {all inRoot : List Lexeme} {complete : Bool}
    {response : ResponseEnvelope} (h : decodeInside document all inRoot complete = .ok response) :
    ∃ content close tail, inRoot = content ++ .endTag close :: tail ∧
      (∀ other, splitElement 0 (content ++ .endTag close :: other) = some (content, other)) ∧
      closeDocument tail complete = .ok () ∧
      ∀ longer all' other complete',
        (∀ before inner after, content = before ++ (inner ++ after) →
          cut longer all' (inner ++ (after ++ .endTag close :: other)) inner =
            cut document all (inner ++ (after ++ .endTag close :: tail)) inner) →
        decodeInside longer all' (content ++ .endTag close :: other) complete' =
          (closeDocument other complete').map fun _ => response := by
  obtain ⟨⟨tag, rest⟩, found, -⟩ := bind_eq_ok h
  obtain ⟨before, rfl, ⟨body, rfl | rfl⟩, finds⟩ := findResponse_ok found
  · rw [finds.decodeInside_full] at h
    obtain ⟨inner, close, more, last, tail, rfl, closes, ends, settled, full⟩ :=
      decodeFull_settled h
    refine ⟨before ++ .startTag body :: (inner ++ .endTag close :: more), last, tail, by simp,
      split_full finds closes ends, settled, fun longer all' other complete' same => ?_⟩
    have place := same (before ++ [.startTag body]) inner (.endTag close :: more) (by simp)
    rw [List.cons_append, List.cons_append] at place
    have whole := full longer all' other complete' place
    rw [← finds.decodeInside_full] at whole
    simpa using whole
  · rw [finds.decodeInside_short] at h
    obtain ⟨more, last, tail, rfl, ends, settled, short⟩ := decodeShort_settled h
    refine ⟨before ++ .emptyTag body :: more, last, tail, by simp, split_short finds ends, settled,
      fun longer all' other complete' _ => ?_⟩
    rw [List.append_assoc, List.cons_append, finds.decodeInside_short, short]

/-! ## Where the root ends -/

/-- A root, from the start of its document to its end tag. -/
structure RootElement where
  prolog : List Lexeme
  tag : Bytes
  content : Balanced
  close : Bytes
  plain : ∀ lexeme ∈ prolog, lexeme.IsLeaf
  named : localName (tagName tag) = utf8 "ajax-response"
  matched : endName close = tagName tag

def RootElement.lexemes (root : RootElement) : List Lexeme :=
  root.prolog ++ .startTag root.tag :: (root.content.lexemes ++ [.endTag root.close])

theorem RootElement.findRoot_lexemes (root : RootElement) (other : List Lexeme) (complete : Bool) :
    findRoot (root.lexemes ++ other) complete =
      .ok (root.content.lexemes ++ .endTag root.close :: other) := by
  rw [lexemes, List.append_assoc, findRoot_leaves root.plain, List.cons_append, List.append_assoc]
  exact if_pos root.named

theorem RootElement.keepMatched_lexemes (root : RootElement) (other : List Lexeme)
    (complete : Bool) : keepMatched [] (root.lexemes ++ other) complete =
      .prepend root.lexemes (keepMatched [] other complete) := by
  simp only [lexemes, List.append_assoc, List.cons_append, List.nil_append,
    keepMatched_leaves root.plain, keepMatched, keepMatched_content, if_pos root.matched]
  simp [Lexemes.prepend, Lexemes.cons]

/-- An element that is named as the root of a response is. -/
def NamedAsRoot {lexemes : List Lexeme} (element : FirstElement lexemes) : Prop :=
  localName (tagName element.body) = utf8 "ajax-response"

instance {lexemes : List Lexeme} (element : FirstElement lexemes) :
    Decidable (NamedAsRoot element) :=
  inferInstanceAs (Decidable (_ = _))

/-- The name of an element as an error shows it. -/
def shownName {lexemes : List Lexeme} (element : FirstElement lexemes) : String :=
  String.ofList (decodeReplacing (tagName element.body))

theorem findRoot_first {lexemes : List Lexeme} (element : FirstElement lexemes) (complete : Bool) :
    findRoot lexemes complete =
      if element.short = false ∧ NamedAsRoot element then .ok element.rest
      else .error (.unexpectedRoot (shownName element)) := by
  obtain ⟨prolog, short, body, rest, plain, rfl, opened⟩ := element
  rw [findRoot_leaves plain]
  cases short with
  | true => rfl
  | false => simp [Lexeme.beginning, findRoot, NamedAsRoot, shownName]

theorem first_of_findRoot {document : Bytes} {inRoot : List Lexeme} {complete : Bool}
    (h : findRoot (read document).all complete = .ok inRoot) :
    ∃ element : FirstElement (read document).all,
      element.short = false ∧ NamedAsRoot element ∧ element.rest = inRoot := by
  rcases read_first_or document with leaves | ⟨⟨element⟩⟩
  · have none_found := findRoot_leaves leaves [] complete
    rw [List.append_nil, h] at none_found
    cases none_found
  · rw [findRoot_first element] at h
    split at h
    · rename_i stands
      exact ⟨element, stands.1, stands.2, Except.ok.inj h⟩
    · cases h

/-- Inside an element that is not closed, no end of it is found. -/
theorem splitElement_unfinished (u : Unfinished) (depth : Nat) :
    splitElement depth u.lexemes = none := by
  induction u generalizing depth with
  | top content =>
    have here := splitElement_content content depth []
    rw [List.append_nil] at here
    rw [Unfinished.lexemes, here]
    cases depth <;> rfl
  | inside before tag inner ih =>
    rw [Unfinished.lexemes, splitElement_content, splitElement, ih]
    rfl

theorem closeDocument_ok {lexemes : List Lexeme} {complete : Bool}
    (h : closeDocument lexemes complete = .ok ()) :
    complete = true ∧ ∀ lexeme ∈ lexemes, lexeme.IsMisc := by
  induction lexemes with
  | nil =>
    cases complete with
    | true => exact ⟨rfl, nofun⟩
    | false => cases h
  | cons first rest ih =>
    have further (misc : first.IsMisc) (h : closeDocument rest complete = .ok ()) :
        complete = true ∧ ∀ lexeme ∈ first :: rest, lexeme.IsMisc :=
      ⟨(ih h).1, List.forall_mem_cons.mpr ⟨misc, (ih h).2⟩⟩
    cases first with
    | comment body => exact further trivial h
    | instruction body =>
      rw [closeDocument] at h
      split at h
      · cases h
      · exact further trivial h
    | text content =>
      rw [closeDocument] at h
      split at h
      · exact further (by assumption) h
      · cases h
    | _ => cases h

/-- The element that was found to end is balanced. -/
theorem content_of_split {name close : Bytes} {content tail : List Lexeme}
    (opened : Opened name (content ++ .endTag close :: tail))
    (split : splitElement 0 (content ++ .endTag close :: tail) = some (content, tail)) :
    ∃ balanced : Balanced, balanced.lexemes = content ∧ endName close = name := by
  generalize parts : content ++ .endTag close :: tail = inside at opened split
  cases opened with
  | unclosed inner =>
    rw [splitElement_unfinished] at split
    cases split
  | closed balanced matched after =>
    rw [splitElement_close] at split
    cases split
    cases List.append_cancel_left parts
    exact ⟨balanced, rfl, matched⟩

/-- What is cut out of a document is the same in a longer one. -/
theorem cut_longer {document : Bytes} {front inner : List Lexeme} (more : Bytes)
    (short : (sources (front ++ inner)).length ≤ document.length) (after other : List Lexeme) :
    cut (document ++ more) (front ++ (inner ++ other)) (inner ++ other) inner =
      cut document (front ++ (inner ++ after)) (inner ++ after) inner := by
  have place (rest : List Lexeme) :
      (sources (front ++ (inner ++ rest))).length - (sources (inner ++ rest)).length =
        (sources front).length := by
    simp [sources]
  have fits : (sources front).length + (sources inner).length ≤ document.length := by
    simpa [sources] using short
  rw [cut, cut, place, place, List.drop_append_of_le_length (by omega),
    List.take_append_of_le_length (by rw [List.length_drop]; omega)]

/-- An accepted response has a root that is closed, and at its end tag it is settled what is read of
it and of every longer one. -/
theorem decode_settled {document : Bytes} {response : ResponseEnvelope}
    (h : decode document = .ok response) :
    ∃ (root : RootElement) (tail : List Lexeme),
      Xml.Reads (withoutMark document) (root.lexemes ++ tail) ∧ (∀ lexeme ∈ tail, lexeme.IsMisc) ∧
      ∀ more other complete, decodeInside (document ++ more) (root.lexemes ++ other)
          (root.content.lexemes ++ .endTag root.close :: other) complete =
        (closeDocument other complete).map fun _ => response := by
  rw [decode_eq] at h
  obtain ⟨inRoot, found, h⟩ := bind_eq_ok h
  obtain ⟨element, full, named, rfl⟩ := first_of_findRoot found
  obtain ⟨content, close, tail, here, split, closed, settled⟩ := decodeInside_settled h
  obtain ⟨balanced, rfl, matched⟩ := content_of_split (here ▸ element.opened full) (split tail)
  obtain ⟨whole, misc⟩ := closeDocument_ok closed
  let root : RootElement :=
    ⟨element.prolog, element.body, balanced, close, element.plain, named, matched⟩
  have all : (read document).all = root.lexemes ++ tail := by
    refine element.parts.trans ?_
    rw [full, here]
    simp [RootElement.lexemes, root, Lexeme.beginning]
  have reads : Xml.Reads (withoutMark document) (root.lexemes ++ tail) := by
    refine read_complete ?_
    rw [← all, ← whole]
  refine ⟨root, tail, reads, misc, fun more other complete' => ?_⟩
  refine settled (document ++ more) (root.lexemes ++ other) other complete'
    fun before inner after parts => ?_
  let front := element.prolog ++ .startTag element.body :: before
  have place (last : List Lexeme) :
      root.lexemes ++ last = front ++ (inner ++ (after ++ .endTag close :: last)) := by
    simp [RootElement.lexemes, root, front, parts]
  have short : (sources (front ++ inner)).length ≤ document.length := by
    have octets := congrArg List.length (place tail ▸ reads).source
    have without := (withoutMark_suffix document).length_le
    simp only [sources, List.flatMap_append, List.length_append] at octets ⊢
    omega
  rw [all, place, place]
  exact cut_longer more short _ _

/-! ## Longer documents -/

theorem RootElement.markup_mem (root : RootElement) {document : Bytes} {tail : List Lexeme}
    (reads : Xml.Reads (withoutMark document) (root.lexemes ++ tail)) : 0x3C ∈ document := by
  have opens : Lexeme.startTag root.tag ∈ root.lexemes ++ tail := by simp [lexemes]
  refine (withoutMark_suffix document).subset ?_
  rw [← reads.source]
  exact List.mem_flatMap.mpr ⟨_, opens, List.mem_cons_self⟩

theorem RootElement.ends (root : RootElement) :
    ∀ last ∈ root.lexemes.getLast?, last.isText = false := by
  have split : root.lexemes =
      (root.prolog ++ .startTag root.tag :: root.content.lexemes) ++ [.endTag root.close] := by
    simp [lexemes]
  intro last mem
  rw [split, List.getLast?_concat] at mem
  cases mem
  rfl

/-- A longer document has the same root, and something may follow it. -/
theorem RootElement.read_longer (root : RootElement) {document : Bytes} {tail : List Lexeme}
    (reads : Xml.Reads (withoutMark document) (root.lexemes ++ tail)) (more : Bytes) :
    ∃ other : Lexemes, read (document ++ more) = .prepend root.lexemes other := by
  obtain ⟨rest, scanned⟩ := scan_longer reads root.ends more
  refine ⟨keepMatched [] (scan rest).all (scan rest).complete, ?_⟩
  rw [Xml.read, withoutMark_longer (root.markup_mem reads), scanned]
  exact root.keepMatched_lexemes _ _

/-- A document has one root. -/
theorem RootElement.lexemes_unique {root other : RootElement} {tail after : List Lexeme}
    (same : root.lexemes ++ tail = other.lexemes ++ after) : root.lexemes = other.lexemes := by
  have inside := other.findRoot_lexemes after true
  rw [← same, root.findRoot_lexemes tail true] at inside
  have split := congrArg (splitElement 0) (Except.ok.inj inside)
  rw [splitElement_close, splitElement_close] at split
  obtain ⟨-, rfl⟩ := Prod.mk.inj (Option.some.inj split)
  exact List.append_cancel_right same

/-- What follows an accepted response is accepted too or not, and does not change what is read. -/
theorem decode_longer {document : Bytes} {response : ResponseEnvelope}
    (h : decode document = .ok response) (more : Bytes) :
    ∃ other : Lexemes, decode (document ++ more) =
      (closeDocument other.all other.complete).map fun _ => response := by
  obtain ⟨root, tail, reads, -, settled⟩ := decode_settled h
  obtain ⟨other, longer⟩ := root.read_longer reads more
  refine ⟨other, ?_⟩
  rw [decode_eq, longer]
  simp only [Lexemes.prepend, root.findRoot_lexemes]
  exact settled more other.all other.complete

/-- What an accepted part of a document lacks stands behind the root. -/
theorem RootElement.length_rest_le (root : RootElement) {part rest : Bytes} {tail : List Lexeme}
    {response : ResponseEnvelope}
    (whole : Xml.Reads (withoutMark (part ++ rest)) (root.lexemes ++ tail))
    (accepted : decode part = .ok response) : rest.length ≤ (sources tail).length := by
  obtain ⟨first, behind, reads, -, -⟩ := decode_settled accepted
  have same : first.lexemes = root.lexemes := by
    obtain ⟨other, longer⟩ := first.read_longer reads rest
    have here : read (part ++ rest) = .prepend root.lexemes (keepMatched [] tail true) := by
      rw [Xml.read, whole]
      exact root.keepMatched_lexemes tail true
    exact lexemes_unique (congrArg Lexemes.all (longer.symm.trans here))
  have octets : sources (root.lexemes ++ tail) = sources (root.lexemes ++ behind) ++ rest := by
    rw [whole.source, withoutMark_longer (first.markup_mem reads), ← reads.source, same]
  have lengths := congrArg List.length octets
  simp only [sources, List.flatMap_append, List.length_append] at lengths ⊢
  omega

/-- A response is accepted only as a whole. It has a root that is closed, and behind it blanks,
comments and instructions. Wherever it is cut off before the end tag of its root ends, it is
refused; and whatever is put behind it, it is refused or the same is read. -/
theorem decode_truncated {document : Bytes} {response : ResponseEnvelope}
    (accepted : decode document = .ok response) :
    ∃ (root : RootElement) (tail : List Lexeme),
      Xml.Reads (withoutMark document) (root.lexemes ++ tail) ∧ (∀ lexeme ∈ tail, lexeme.IsMisc) ∧
      (∀ part rest, document = part ++ rest → (sources tail).length < rest.length →
        ∃ error, decode part = .error error) ∧
      ∀ more, (∃ error, decode (document ++ more) = .error error) ∨
        decode (document ++ more) = .ok response := by
  obtain ⟨root, tail, reads, misc, -⟩ := decode_settled accepted
  refine ⟨root, tail, reads, misc, fun part rest split behind => ?_, fun more => ?_⟩
  · cases cut : decode part with
    | error error => exact ⟨error, rfl⟩
    | ok shorter =>
      subst split
      exact absurd (root.length_rest_le reads cut) (Nat.not_le_of_lt behind)
  · obtain ⟨other, longer⟩ := decode_longer accepted more
    rw [longer]
    cases closeDocument other.all other.complete with
    | error error => exact .inl ⟨error, rfl⟩
    | ok _ => exact .inr rfl

/-- A response with a mark, an end tag in a comment, and a line end behind its root. -/
theorem decode_truncated_comment :
    let document := byteOrderMark ++
      utf8 "<ajax-response><response id=\"1\"/><!--</ajax-response>--></ajax-response>\n"
    let response : ResponseEnvelope := ⟨"", "1", none, []⟩
    decode document = .ok response ∧
      ∃ (root : RootElement) (tail : List Lexeme),
        Xml.Reads (withoutMark document) (root.lexemes ++ tail) ∧ (∀ lexeme ∈ tail, lexeme.IsMisc) ∧
        (∀ part rest, document = part ++ rest → (sources tail).length < rest.length →
          ∃ error, decode part = .error error) ∧
        ∀ more, (∃ error, decode (document ++ more) = .error error) ∨
          decode (document ++ more) = .ok response := by
  intro document response
  have accepted : decode document = .ok response := by
    have given : (decode document).toOption = some response := by decide +kernel
    cases read : decode document with
    | error error => rw [read] at given; cases given
    | ok other => rw [read] at given; cases given; rfl
  exact ⟨accepted, decode_truncated accepted⟩

end WlanAdmin.ResponseEnvelope
