import WlanAdmin.Envelope.Response
import WlanAdmin.Proofs.Xml.Reads

/-!
# WlanAdmin.Proofs.Xml.Balanced

What may stand between a start tag and its end tag, and how the functions that count open elements
pass over it.

* `Balanced` : lexemes in which every element that is opened is closed by an end tag of its name.
* `keepMatched_content`, `splitElement_content`, `closeRoot_content` : content is passed over whole.
* `findResponse_content`, `findXmsgTag_content` : only the tags at the top of content are looked at.
* `Fragment` : octets that are read as content.
-/

namespace WlanAdmin.Xml

/-- A lexeme that neither opens nor closes an element, and is not one. -/
def Lexeme.IsLeaf : Lexeme → Prop
  | .startTag _ | .emptyTag _ | .endTag _ => False
  | _ => True

/-- Lexemes in which elements are properly nested. -/
inductive Balanced where
  | nil
  | leaf (first : Lexeme) (plain : first.IsLeaf) (rest : Balanced)
  | empty (tag : Bytes) (rest : Balanced)
  | element (tag : Bytes) (inner : Balanced) (close : Bytes) (matched : endName close = tagName tag)
    (rest : Balanced)

namespace Balanced

def lexemes : Balanced → List Lexeme
  | nil => []
  | leaf first _ rest => first :: rest.lexemes
  | empty tag rest => .emptyTag tag :: rest.lexemes
  | element tag inner close _ rest =>
    .startTag tag :: (inner.lexemes ++ .endTag close :: rest.lexemes)

/-- The tags of the elements at the top, in their order. -/
def tags : Balanced → List Bytes
  | nil => []
  | leaf _ _ rest => rest.tags
  | empty tag rest => tag :: rest.tags
  | element tag _ _ _ rest => tag :: rest.tags

end Balanced

/-- Lexemes in front of others, nothing being wrong before those. -/
def Lexemes.prepend (lexemes : List Lexeme) (rest : Lexemes) : Lexemes :=
  ⟨lexemes ++ rest.all, rest.complete⟩

theorem Lexemes.prepend_cons (first : Lexeme) (lexemes : List Lexeme) (rest : Lexemes) :
    Lexemes.prepend (first :: lexemes) rest = .cons first (.prepend lexemes rest) := rfl

theorem Lexemes.prepend_append (before lexemes : List Lexeme) (rest : Lexemes) :
    Lexemes.prepend (before ++ lexemes) rest = .prepend before (.prepend lexemes rest) := by
  simp [Lexemes.prepend]

/-! ## Passing over content -/

theorem keepMatched_leaf {first : Lexeme} (plain : first.IsLeaf) (opened : List Bytes)
    (rest : List Lexeme) (complete : Bool) :
    keepMatched opened (first :: rest) complete =
      .cons first (keepMatched opened rest complete) := by
  cases first <;> first | rfl | exact plain.elim

theorem keepMatched_leaves {lexemes : List Lexeme} (plain : ∀ lexeme ∈ lexemes, lexeme.IsLeaf)
    (opened : List Bytes) (rest : List Lexeme) (complete : Bool) :
    keepMatched opened (lexemes ++ rest) complete =
      .prepend lexemes (keepMatched opened rest complete) := by
  induction lexemes with
  | nil => rfl
  | cons first lexemes ih =>
    have hrest := ih fun lexeme hl => plain lexeme (List.mem_cons_of_mem _ hl)
    rw [List.cons_append, keepMatched_leaf (plain first List.mem_cons_self), hrest,
      Lexemes.prepend_cons]

theorem keepMatched_content (content : Balanced) (opened : List Bytes) (rest : List Lexeme)
    (complete : Bool) :
    keepMatched opened (content.lexemes ++ rest) complete =
      .prepend content.lexemes (keepMatched opened rest complete) := by
  induction content generalizing opened rest with
  | nil => rfl
  | leaf first plain others ih =>
    rw [Balanced.lexemes, List.cons_append, keepMatched_leaf plain, ih, Lexemes.prepend_cons]
  | empty tag others ih =>
    rw [Balanced.lexemes, List.cons_append, keepMatched, ih, Lexemes.prepend_cons]
    all_goals nofun
  | element tag inner close matched others ihInner ihOthers =>
    rw [Balanced.lexemes, List.cons_append, List.append_assoc, List.cons_append, keepMatched,
      ihInner, keepMatched, if_pos matched, ihOthers, Lexemes.prepend_cons, Lexemes.prepend_append,
      Lexemes.prepend_cons]

/-! ## Octets that are read as content -/

structure Fragment where
  octets : Bytes
  content : Balanced
  reads : Reads octets content.lexemes

/-- No octets at all. -/
def Fragment.blank : Fragment := ⟨[], .nil, reads_nil⟩

/-- A lexeme whose octets are read as just this lexeme. -/
def Lexeme.Stands (lexeme : Lexeme) : Prop := Reads lexeme.source [lexeme]

instance (lexeme : Lexeme) : Decidable lexeme.Stands := inferInstanceAs (Decidable (Reads _ _))

theorem endsText_source (first : Lexeme) (h : first.isText = false) (rest : Bytes) :
    EndsText (first.source ++ rest) := by
  cases first <;> first | cases h; done | (rintro b ⟨⟩; rfl)

/-- An empty element. -/
def Fragment.empty (tag : Bytes) (stands : (Lexeme.emptyTag tag).Stands) : Fragment :=
  ⟨(Lexeme.emptyTag tag).source, .empty tag .nil, stands⟩

/-- A start tag and an end tag that closes it. -/
structure TagPair where
  tag : Bytes
  close : Bytes
  opens : (Lexeme.startTag tag).Stands
  closes : (Lexeme.endTag close).Stands
  matched : endName close = tagName tag

namespace TagPair

/-- The tags with some octets between them. -/
def around (tags : TagPair) (inner : Bytes) : Bytes :=
  (Lexeme.startTag tags.tag).source ++ (inner ++ (Lexeme.endTag tags.close).source)

/-- An element with content. -/
def fragment (tags : TagPair) (inner : Fragment) : Fragment where
  octets := tags.around inner.octets
  content := .element tags.tag inner.content tags.close tags.matched .nil
  reads := by
    refine tags.opens.cons (inner.reads.append tags.closes fun _ => ?_) rfl
    exact endsText_source (.endTag tags.close) rfl []

end TagPair

theorem next_text {b : UInt8} (hb : isTextByte b = true) (rest : Bytes) :
    next (b :: rest) =
      .lexeme (.text (b :: rest.takeWhile isTextByte)) (rest.dropWhile isTextByte) := by
  rw [next]
  · rintro ⟨⟩
    cases hb
  · rintro ⟨⟩
    cases hb

theorem withoutMark_eq {octets : Bytes} (h : ∀ b ∈ octets.head?, b ≠ 0xEF) :
    withoutMark octets = octets := by
  unfold withoutMark
  split
  · rename_i hmark
    obtain ⟨rest, rfl⟩ := List.isPrefixOf_iff_prefix.mp hmark
    exact absurd rfl (h 0xEF rfl)
  · rfl

/-- A byte order mark is a part of the first text, so no tag is lost with it. -/
theorem Fragment.exists_withoutMark (f : Fragment) :
    ∃ other : Fragment,
      other.octets = withoutMark f.octets ∧ other.content.tags = f.content.tags := by
  by_cases hmark : byteOrderMark.isPrefixOf f.octets = true
  · obtain ⟨octets, content, reads⟩ := f
    obtain ⟨more, rfl⟩ := List.isPrefixOf_iff_prefix.mp hmark
    have hwithout : withoutMark (byteOrderMark ++ more) = more := if_pos hmark
    have hfirst : next (byteOrderMark ++ more) = _ :=
      next_text (b := 0xEF) rfl (0xBB :: 0xBF :: more)
    cases content with
    | nil => cases reads.eq_nil
    | empty tag others =>
      obtain ⟨rest, hn, -⟩ := reads.next_eq
      rw [hfirst] at hn
      cases hn
    | element tag inner close matched others =>
      obtain ⟨rest, hn, -⟩ := reads.next_eq
      rw [hfirst] at hn
      cases hn
    | leaf first plain others =>
      obtain ⟨rest, hn, hr⟩ := reads.next_eq
      rw [hfirst] at hn
      injection hn with _ hrest
      have hrest : more.dropWhile isTextByte = rest := hrest
      rw [← hrest] at hr
      -- what is left of the text is a text of its own, or nothing
      cases more with
      | nil => exact ⟨⟨_, others, hr⟩, hwithout.symm, rfl⟩
      | cons b tail =>
        by_cases hb : isTextByte b = true
        · rw [List.dropWhile_cons_of_pos hb] at hr
          exact ⟨⟨_, .leaf (.text _) trivial others, reads_of_next (next_text hb tail) hr⟩,
            hwithout.symm, rfl⟩
        · rw [List.dropWhile_cons_of_neg hb] at hr
          exact ⟨⟨_, others, hr⟩, hwithout.symm, rfl⟩
  · exact ⟨f, (if_neg hmark).symm, rfl⟩

theorem read_eq {octets : Bytes} {content : Balanced}
    (h : Reads (withoutMark octets) content.lexemes) : read octets = ⟨content.lexemes, true⟩ := by
  have := keepMatched_content content [] [] true
  rw [List.append_nil] at this
  rw [read, h, this]
  simp [keepMatched, Lexemes.prepend]

end WlanAdmin.Xml

namespace WlanAdmin.ResponseEnvelope

open Xml

theorem splitElement_leaf {first : Lexeme} (plain : first.IsLeaf) (depth : Nat)
    (rest : List Lexeme) :
    splitElement depth (first :: rest) =
      (splitElement depth rest).map fun (inner, after) => (first :: inner, after) := by
  cases first <;> first | exact plain.elim | (cases depth <;> rfl)

/-- Content is part of the element that is open around it. -/
theorem splitElement_content (content : Balanced) (depth : Nat) (rest : List Lexeme) :
    splitElement depth (content.lexemes ++ rest) =
      (splitElement depth rest).map fun (inner, after) => (content.lexemes ++ inner, after) := by
  induction content generalizing depth rest with
  | nil => simp [Balanced.lexemes]
  | leaf first plain others ih =>
    simp [Balanced.lexemes, splitElement_leaf plain, ih, Function.comp_def]
  | empty tag others ih =>
    cases depth <;> simp [Balanced.lexemes, splitElement, ih, Function.comp_def]
  | element tag inner close matched others ihInner ihOthers =>
    simp [Balanced.lexemes, splitElement, ihInner, ihOthers, Function.comp_def]

/-- An element's content ends at its own end tag. -/
theorem splitElement_close (content : Balanced) (close : Bytes) (rest : List Lexeme) :
    splitElement 0 (content.lexemes ++ .endTag close :: rest) = some (content.lexemes, rest) := by
  rw [splitElement_content]
  simp [splitElement]

theorem closeRoot_leaf {first : Lexeme} (plain : first.IsLeaf) (depth : Nat)
    (rest : List Lexeme) (complete : Bool) :
    closeRoot depth (first :: rest) complete = closeRoot depth rest complete := by
  cases first <;> first | exact plain.elim | (cases depth <;> rfl)

theorem closeRoot_content (content : Balanced) (depth : Nat) (rest : List Lexeme)
    (complete : Bool) :
    closeRoot depth (content.lexemes ++ rest) complete = closeRoot depth rest complete := by
  induction content generalizing depth rest with
  | nil => rfl
  | leaf first plain others ih =>
    rw [Balanced.lexemes, List.cons_append, closeRoot_leaf plain, ih]
  | empty tag others ih =>
    cases depth <;> simp [Balanced.lexemes, closeRoot, ih]
  | element tag inner close matched others ihInner ihOthers =>
    simp [Balanced.lexemes, closeRoot, ihInner, ihOthers]

/-! ## Looking for a tag at the top of content -/

theorem findResponse_leaf {first : Lexeme} (plain : first.IsLeaf) (depth : Nat)
    (rest : List Lexeme) (complete : Bool) :
    findResponse depth (first :: rest) complete = findResponse depth rest complete := by
  cases first <;> first | exact plain.elim | (cases depth <;> rfl)

/-- Inside a child of the root no tag is looked at. -/
theorem findResponse_inside (content : Balanced) (depth : Nat) (rest : List Lexeme)
    (complete : Bool) :
    findResponse (depth + 1) (content.lexemes ++ rest) complete =
      findResponse (depth + 1) rest complete := by
  induction content generalizing depth rest with
  | nil => rfl
  | leaf first plain others ih =>
    rw [Balanced.lexemes, List.cons_append, findResponse_leaf plain, ih]
  | empty tag others ih => simp [Balanced.lexemes, findResponse, ih]
  | element tag inner close matched others ihInner ihOthers =>
    simp [Balanced.lexemes, findResponse, ihInner, ihOthers]

theorem findResponse_content (content : Balanced) (rest : List Lexeme) (complete : Bool)
    (others : ∀ tag ∈ content.tags, localName (tagName tag) ≠ utf8 "response") :
    findResponse 0 (content.lexemes ++ rest) complete = findResponse 0 rest complete := by
  induction content with
  | nil => rfl
  | leaf first plain more ih =>
    rw [Balanced.lexemes, List.cons_append, findResponse_leaf plain, ih others]
  | empty tag more ih =>
    have htag := others tag List.mem_cons_self
    have hmore := ih fun tag ht => others tag (List.mem_cons_of_mem _ ht)
    rw [Balanced.lexemes, List.cons_append, findResponse, if_neg htag, hmore]
  | element tag inner close matched more _ ih =>
    have htag := others tag List.mem_cons_self
    have hmore := ih fun tag ht => others tag (List.mem_cons_of_mem _ ht)
    rw [Balanced.lexemes, List.cons_append, List.append_assoc, List.cons_append, findResponse,
      if_neg htag, findResponse_inside, findResponse, hmore]

theorem findXmsgTag_leaf {first : Lexeme} (plain : first.IsLeaf) (depth : Nat)
    (rest : List Lexeme) (complete : Bool) :
    findXmsgTag depth (first :: rest) complete = findXmsgTag depth rest complete := by
  cases first <;> first | exact plain.elim | (cases depth <;> rfl)

/-- Below the top no tag is looked at. -/
theorem findXmsgTag_inside (content : Balanced) (depth : Nat) (rest : List Lexeme)
    (complete : Bool) :
    findXmsgTag (depth + 1) (content.lexemes ++ rest) complete =
      findXmsgTag (depth + 1) rest complete := by
  induction content generalizing depth rest with
  | nil => rfl
  | leaf first plain others ih =>
    rw [Balanced.lexemes, List.cons_append, findXmsgTag_leaf plain, ih]
  | empty tag others ih => simp [Balanced.lexemes, findXmsgTag, ih]
  | element tag inner close matched others ihInner ihOthers =>
    simp [Balanced.lexemes, findXmsgTag, ihInner, ihOthers]

theorem findXmsgTag_content (content : Balanced) :
    findXmsgTag 0 content.lexemes true =
      .ok (content.tags.find? fun tag => localName (tagName tag) = utf8 "xmsg") := by
  induction content with
  | nil => rfl
  | leaf first plain others ih =>
    rw [Balanced.lexemes, findXmsgTag_leaf plain, ih]
    rfl
  | empty tag others ih =>
    rw [Balanced.lexemes, findXmsgTag, ih, Balanced.tags, List.find?_cons]
    by_cases hx : localName (tagName tag) = utf8 "xmsg" <;> simp [hx]
  | element tag inner close matched others _ ih =>
    rw [Balanced.lexemes, findXmsgTag, findXmsgTag_inside, findXmsgTag, ih, Balanced.tags,
      List.find?_cons]
    by_cases hx : localName (tagName tag) = utf8 "xmsg" <;> simp [hx]

/-- The tag of the first structured error at the top of a fragment. -/
def errorTag? (f : Fragment) : Option Bytes :=
  f.content.tags.find? fun tag => localName (tagName tag) = utf8 "xmsg"

/-- The second reading of a fragment, as a document of its own, sees the tags of the first. -/
theorem findXmsg_fragment (f : Fragment) :
    findXmsg f.octets =
      match errorTag? f with
      | none => .ok none
      | some tag => (xmsgOfTag tag).map some := by
  obtain ⟨other, ho, htags⟩ := f.exists_withoutMark
  have hread : read f.octets = ⟨other.content.lexemes, true⟩ := read_eq (ho ▸ other.reads)
  rw [findXmsg, hread]
  simp only [findXmsgTag_content, htags]
  unfold errorTag?
  cases f.content.tags.find? fun tag => localName (tagName tag) = utf8 "xmsg" with
  | none => rfl
  | some tag => cases xmsgOfTag tag <;> rfl

end WlanAdmin.ResponseEnvelope
