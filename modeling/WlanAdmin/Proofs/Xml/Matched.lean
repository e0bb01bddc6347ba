import WlanAdmin.Proofs.Xml.Balanced

/-!
# WlanAdmin.Proofs.Xml.Matched

What documents look like once their end tags are matched: balanced content, in which some elements
may still be open where it ends.

* `Unfinished` : balanced content, and the elements that are open around its end.
* `Kept`, `keepMatched_kept` : what is kept inside an element is such, or the content of the element
  comes first and its end tag after it.
* `keepMatched_unfinished`, `read_unfinished` : every document is read as such.
* `keepMatched_front` : and so is each beginning of what is read.
* `read_complete` : one that is read to its end is read as it stands.
* `FirstElement`, `read_first_or` : the first element of a document, if there is any.
* `withoutMark_longer`, `scan_longer` : what is read of a document is read of a longer one, too.
-/

namespace WlanAdmin.Xml

/-- Lexemes in which elements are properly nested, some of them being open where they end. -/
inductive Unfinished where
  | top (content : Balanced)
  | inside (before : Balanced) (tag : Bytes) (inner : Unfinished)

namespace Unfinished

def lexemes : Unfinished → List Lexeme
  | top content => content.lexemes
  | inside before tag inner => before.lexemes ++ .startTag tag :: inner.lexemes

/-- How many elements are open. -/
def depth : Unfinished → Nat
  | top _ => 0
  | inside _ _ inner => inner.depth + 1

/-- The same with something more in front. -/
def front (put : Balanced → Balanced) : Unfinished → Unfinished
  | top content => top (put content)
  | inside before tag inner => inside (put before) tag inner

theorem front_lexemes {put : Balanced → Balanced} {piece : List Lexeme}
    (puts : ∀ content, (put content).lexemes = piece ++ content.lexemes) (u : Unfinished) :
    (u.front put).lexemes = piece ++ u.lexemes := by
  cases u with
  | top content => exact puts content
  | inside before tag inner => simp only [front, lexemes, puts, List.append_assoc]

end Unfinished

/-! ## Keeping what is matched -/

/-- What is kept of fewer than `bound` lexemes inside the elements `opened`: all of it stays inside,
or the content of the last of them comes first, and its end tag after it. -/
inductive Kept (opened : List Bytes) (bound : Nat) : Lexemes → Prop where
  | stays (u : Unfinished) (complete : Bool) : Kept opened bound ⟨u.lexemes, complete⟩
  | closes (content : Balanced) {close : Bytes} {above : List Bytes} (rest : List Lexeme)
      (complete : Bool) : opened = endName close :: above → rest.length < bound →
      Kept opened bound
        (.prepend content.lexemes (.cons (.endTag close) (keepMatched above rest complete)))

theorem Kept.front {opened : List Bytes} {bound wider : Nat} {kept : Lexemes}
    (h : Kept opened bound kept) (wide : bound ≤ wider) {put : Balanced → Balanced}
    {piece : List Lexeme} (puts : ∀ content, (put content).lexemes = piece ++ content.lexemes) :
    Kept opened wider (.prepend piece kept) := by
  cases h with
  | stays u complete =>
    rw [Lexemes.prepend, ← u.front_lexemes puts]
    exact .stays _ complete
  | closes content rest complete above short =>
    rw [← Lexemes.prepend_append, ← puts]
    exact .closes (put content) rest complete above (Nat.lt_of_lt_of_le short wide)

theorem Kept.leaf {opened : List Bytes} {first : Lexeme} {rest : List Lexeme} {complete : Bool}
    (later : Kept opened rest.length (keepMatched opened rest complete)) (plain : first.IsLeaf) :
    Kept opened (first :: rest).length (keepMatched opened (first :: rest) complete) := by
  have puts (content : Balanced) :
      (Balanced.leaf first plain content).lexemes = [first] ++ content.lexemes := rfl
  rw [keepMatched_leaf plain]
  exact later.front (Nat.le_succ _) puts

theorem keepMatched_kept (opened : List Bytes) (lexemes : List Lexeme) (complete : Bool) :
    Kept opened lexemes.length (keepMatched opened lexemes complete) := by
  match lexemes with
  | [] => exact .stays (.top .nil) complete
  | .endTag close :: rest =>
    cases opened with
    | nil => exact .stays (.top .nil) false
    | cons name above =>
      by_cases matched : endName close = name
      · rw [keepMatched, if_pos matched]
        exact .closes .nil rest complete (by rw [matched]) (Nat.lt_succ_self _)
      · rw [keepMatched, if_neg matched]
        exact .stays (.top .nil) false
  | .startTag tag :: rest =>
    rw [keepMatched]
    have inner := keepMatched_kept (tagName tag :: opened) rest complete
    generalize keepMatched (tagName tag :: opened) rest complete = kept at inner
    cases inner with
    | stays u complete => exact .stays (.inside .nil tag u) complete
    | @closes content close above after complete closed short =>
      -- the element is closed, and what follows it is kept inside the same elements
      obtain ⟨matched, rfl⟩ := List.cons.inj closed
      have later := keepMatched_kept opened after complete
      have whole (others : Balanced) :
          (Balanced.element tag content close matched.symm others).lexemes =
            (.startTag tag :: (content.lexemes ++ [.endTag close])) ++ others.lexemes := by
        simp [Balanced.lexemes]
      have := later.front (Nat.le_of_lt (Nat.lt_succ_of_lt short)) whole
      simpa [Lexemes.prepend, Lexemes.cons] using this
  | .emptyTag tag :: rest =>
    have puts (content : Balanced) :
        (Balanced.empty tag content).lexemes = [.emptyTag tag] ++ content.lexemes := rfl
    rw [keepMatched]
    · exact (keepMatched_kept opened rest complete).front (Nat.le_succ _) puts
    all_goals simp
  | .text _ :: rest | .reference _ :: rest | .cdata _ :: rest | .comment _ :: rest
  | .doctype _ :: rest | .instruction _ :: rest =>
    exact (keepMatched_kept opened rest complete).leaf trivial
termination_by lexemes.length

/-- What is kept outside of all elements is balanced content, in which some elements may still be
open. -/
theorem keepMatched_unfinished (lexemes : List Lexeme) (complete : Bool) :
    ∃ (u : Unfinished) (ended : Bool), keepMatched [] lexemes complete = ⟨u.lexemes, ended⟩ := by
  have kept := keepMatched_kept [] lexemes complete
  generalize keepMatched [] lexemes complete = found at kept
  cases kept with
  | stays u ended => exact ⟨u, ended, rfl⟩
  | closes content rest complete nothing _ => cases nothing

theorem read_unfinished (document : Bytes) :
    ∃ (u : Unfinished) (complete : Bool), read document = ⟨u.lexemes, complete⟩ :=
  keepMatched_unfinished _ _

/-- A beginning of what is kept is kept by itself. -/
theorem keepMatched_front {opened : List Bytes} {lexemes front back : List Lexeme}
    {complete : Bool} (h : (keepMatched opened lexemes complete).all = front ++ back) :
    keepMatched opened front true = ⟨front, true⟩ := by
  induction front generalizing opened lexemes with
  | nil => rfl
  | cons first front ih =>
    cases lexemes with
    | nil => simp [keepMatched] at h
    | cons other rest =>
      cases other with
      | startTag body =>
        simp only [keepMatched, Lexemes.cons, List.cons_append, List.cons.injEq] at h
        obtain ⟨rfl, h⟩ := h
        rw [keepMatched, ih h]
        rfl
      | endTag body =>
        cases opened with
        | nil => simp [keepMatched] at h
        | cons name above =>
          by_cases matched : endName body = name
          · simp only [keepMatched, if_pos matched, Lexemes.cons, List.cons_append,
              List.cons.injEq] at h
            obtain ⟨rfl, h⟩ := h
            rw [keepMatched, if_pos matched, ih h]
            rfl
          · simp [keepMatched, if_neg matched] at h
      | _ =>
        simp only [keepMatched, Lexemes.cons, List.cons_append, List.cons.injEq] at h
        obtain ⟨rfl, h⟩ := h
        simp only [keepMatched, ih h, Lexemes.cons]

/-- Where nothing was cut off, all lexemes are kept. -/
theorem keepMatched_complete {opened : List Bytes} {lexemes : List Lexeme} {complete : Bool}
    (whole : (keepMatched opened lexemes complete).complete = true) :
    (keepMatched opened lexemes complete).all = lexemes ∧ complete = true := by
  fun_induction keepMatched opened lexemes complete with
  | case1 => exact ⟨rfl, whole⟩
  | case2 opened body rest complete ih => exact ⟨congrArg _ (ih whole).1, (ih whole).2⟩
  | case3 body rest complete => cases whole
  | case4 body rest complete above ih => exact ⟨congrArg _ (ih whole).1, (ih whole).2⟩
  | case5 body rest complete name above unmatched => cases whole
  | case6 opened first rest complete not_start not_end ih =>
    exact ⟨congrArg _ (ih whole).1, (ih whole).2⟩

/-- A document that is read to its end is read as it stands. -/
theorem read_complete {document : Bytes} {lexemes : List Lexeme}
    (whole : read document = ⟨lexemes, true⟩) : Reads (withoutMark document) lexemes := by
  obtain ⟨all, complete⟩ := keepMatched_complete (congrArg Lexemes.complete whole)
  have kept : (read document).all = (scan (withoutMark document)).all := all
  rw [whole] at kept
  cases read : scan (withoutMark document) with
  | mk found ended =>
    rw [read] at kept complete
    cases kept
    cases complete
    exact read

/-! ## The first element -/

/-- What is read inside an element that nothing is open around: its content and its end tag, or what
there is of it where it is not closed. -/
inductive Opened (name : Bytes) : List Lexeme → Prop where
  | closed (content : Balanced) {close : Bytes} (matched : endName close = name)
      (after : List Lexeme) : Opened name (content.lexemes ++ .endTag close :: after)
  | unclosed (inner : Unfinished) : Opened name inner.lexemes

/-- The tag by which an element begins. -/
def Lexeme.beginning (short : Bool) (body : Bytes) : Lexeme :=
  if short then .emptyTag body else .startTag body

/-- The first element among some lexemes, and what stands around its tag. -/
structure FirstElement (lexemes : List Lexeme) where
  prolog : List Lexeme
  short : Bool
  body : Bytes
  rest : List Lexeme
  plain : ∀ lexeme ∈ prolog, lexeme.IsLeaf
  parts : lexemes = prolog ++ .beginning short body :: rest
  opened : short = false → Opened (tagName body) rest

def FirstElement.behind {lexemes : List Lexeme} (element : FirstElement lexemes) {first : Lexeme}
    (plain : first.IsLeaf) : FirstElement (first :: lexemes) where
  prolog := first :: element.prolog
  short := element.short
  body := element.body
  rest := element.rest
  plain := List.forall_mem_cons.mpr ⟨plain, element.plain⟩
  parts := congrArg (first :: ·) element.parts
  opened := element.opened

theorem Balanced.first_or (content : Balanced) :
    (∀ lexeme ∈ content.lexemes, lexeme.IsLeaf) ∨
      ∀ more, Nonempty (FirstElement (content.lexemes ++ more)) := by
  induction content with
  | nil => exact .inl nofun
  | leaf first plain rest ih =>
    rcases ih with leaves | found
    · exact .inl (List.forall_mem_cons.mpr ⟨plain, leaves⟩)
    · exact .inr fun more => (found more).elim fun element => ⟨element.behind plain⟩
  | empty tag rest =>
    exact .inr fun more => ⟨⟨[], true, tag, rest.lexemes ++ more, nofun, rfl, nofun⟩⟩
  | element tag inner close matched rest =>
    refine .inr fun more => ⟨⟨[], false, tag, inner.lexemes ++ .endTag close ::
      (rest.lexemes ++ more), nofun, ?_, fun _ => .closed inner matched _⟩⟩
    simp [lexemes, Lexeme.beginning]

/-- A document has a first element, or nothing in it is part of one. -/
theorem read_first_or (document : Bytes) :
    (∀ lexeme ∈ (read document).all, lexeme.IsLeaf) ∨
      Nonempty (FirstElement (read document).all) := by
  obtain ⟨u, complete, found⟩ := read_unfinished document
  rw [found]
  cases u with
  | top content =>
    have here := content.first_or
    refine here.imp id fun found => ?_
    have alone := found []
    rwa [List.append_nil] at alone
  | inside before tag inner =>
    rcases before.first_or with leaves | found
    · exact .inr ⟨⟨before.lexemes, false, tag, inner.lexemes, leaves, rfl,
        fun _ => .unclosed inner⟩⟩
    · exact .inr (found _)

/-! ## Longer documents -/

theorem withoutMark_suffix (document : Bytes) : withoutMark document <:+ document := by
  unfold withoutMark
  split
  · exact List.drop_suffix 3 document
  · exact List.suffix_rfl

/-- The mark at the start of a document with markup is not changed by what follows. -/
theorem withoutMark_longer {document : Bytes} (markup : 0x3C ∈ document) (more : Bytes) :
    withoutMark (document ++ more) = withoutMark document ++ more := by
  by_cases marked : byteOrderMark <+: document
  · have longer : byteOrderMark <+: document ++ more := marked.trans (List.prefix_append _ _)
    rw [withoutMark, withoutMark, if_pos (List.isPrefixOf_iff_prefix.mpr longer),
      if_pos (List.isPrefixOf_iff_prefix.mpr marked)]
    exact List.drop_append_of_le_length marked.length_le
  · have longer : ¬ byteOrderMark <+: document ++ more := by
      intro longer
      rcases List.prefix_or_prefix_of_prefix longer (List.prefix_append document more) with
        here | short
      · exact marked here
      · -- the mark has no octet of markup
        exact absurd (short.subset markup) (by decide)
    rw [withoutMark, withoutMark, if_neg (mt List.isPrefixOf_iff_prefix.mp longer),
      if_neg (mt List.isPrefixOf_iff_prefix.mp marked)]

/-- What is read up to a lexeme that is no text is read in front of anything else, too. -/
theorem scan_longer {octets : Bytes} {front tail : List Lexeme} (h : Reads octets (front ++ tail))
    (ends : ∀ last ∈ front.getLast?, last.isText = false) (more : Bytes) :
    ∃ rest, scan (octets ++ more) = .prepend front (scan rest) := by
  induction front generalizing octets with
  | nil => exact ⟨octets ++ more, rfl⟩
  | cons first front ih =>
    obtain ⟨after, cut, reads⟩ := h.next_eq
    have further : ∀ last ∈ front.getLast?, last.isText = false := by
      intro last mem
      exact ends last (by rw [List.getLast?_cons, mem]; rfl)
    obtain ⟨rest, scanned⟩ := ih reads further
    have longer : next (octets ++ more) = .lexeme first (after ++ more) := by
      refine next_append cut fun text nothing => ?_
      -- a text is not the last of the lexemes in front, so some octets are left
      subst nothing
      cases front with
      | nil => cases text.symm.trans (ends first rfl)
      | cons second front =>
        obtain ⟨_, cut, -⟩ := reads.next_eq
        cases cut
    exact ⟨rest, by rw [scan_lexeme longer, scanned]; rfl⟩

end WlanAdmin.Xml
