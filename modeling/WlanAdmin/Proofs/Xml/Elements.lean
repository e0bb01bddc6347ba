import Mathlib.Data.List.Basic
import WlanAdmin.Proofs.Xml.Written
import WlanAdmin.Xml.Node

/-!
# WlanAdmin.Proofs.Xml.Elements

Content as a tree, and content that consists of written elements.

* `Balanced.onto`     : the nodes of content, in front of those that follow it.
* `Elements`          : elements with no text between them, as octets and as nodes.
* `Elements.written`  : an element around elements, as it is written.
* `topNodes_elements` : reading the octets gives the nodes.
-/

namespace WlanAdmin.Xml

namespace Balanced

/-- The nodes of content, on the level that what follows it leaves. -/
def onto : Balanced → Level → Level
  | nil, level => level
  | leaf first _ rest, level => (Surroundings.prepend first ⟨rest.onto level, []⟩).level
  | empty tag rest, level => (rest.onto level).cons (.element tag [] true)
  | element tag inner _ _ rest, level =>
    (rest.onto level).cons (.element tag (inner.onto .ended).nodes (inner.onto .ended).closed)

end Balanced

theorem prepend_leaf {first : Lexeme} (plain : first.IsLeaf) (level : Level) (outer : List Level) :
    Surroundings.prepend first ⟨level, outer⟩ =
      ⟨(Surroundings.prepend first ⟨level, []⟩).level, outer⟩ := by
  cases first <;> first | rfl | exact plain.elim

/-- Content changes the level it stands on, and none around it. -/
theorem foldr_content (content : Balanced) (level : Level) (outer : List Level) :
    content.lexemes.foldr Surroundings.prepend ⟨level, outer⟩ = ⟨content.onto level, outer⟩ := by
  induction content generalizing level outer with
  | nil => rfl
  | leaf first plain others ih =>
    rw [Balanced.lexemes, List.foldr_cons, ih, prepend_leaf plain]
    rfl
  | empty tag others ih =>
    rw [Balanced.lexemes, List.foldr_cons, ih]
    rfl
  | element tag inner close matched others ihInner ihOthers =>
    rw [Balanced.lexemes, List.foldr_cons, List.foldr_append, List.foldr_cons, ihOthers]
    show Surroundings.prepend (.startTag tag) (inner.lexemes.foldr Surroundings.prepend
      ⟨.ended, others.onto level :: outer⟩) = _
    rw [ihInner]
    rfl

namespace Balanced

def append : Balanced → Balanced → Balanced
  | nil, more => more
  | leaf first plain rest, more => leaf first plain (rest.append more)
  | empty tag rest, more => empty tag (rest.append more)
  | element tag inner close matched rest, more => element tag inner close matched (rest.append more)

theorem lexemes_append (content more : Balanced) :
    (content.append more).lexemes = content.lexemes ++ more.lexemes := by
  induction content with
  | nil => rfl
  | leaf first plain rest ih => rw [append, lexemes, ih]; rfl
  | empty tag rest ih => rw [append, lexemes, ih]; rfl
  | element tag inner close matched rest _ ih => simp [append, lexemes, ih]

theorem onto_append (content more : Balanced) (level : Level) :
    (content.append more).onto level = content.onto (more.onto level) := by
  induction content with
  | nil => rfl
  | leaf first plain rest ih => rw [append, onto, ih]; rfl
  | empty tag rest ih => rw [append, onto, ih]; rfl
  | element tag inner close matched rest _ ih => rw [append, onto, ih]; rfl

end Balanced

/-! ## Elements only -/

/-- Elements with no text between them. -/
structure Elements extends Fragment where
  nodes : List Node
  onto : ∀ level, content.onto level = ⟨nodes ++ level.nodes, level.closed⟩
  starts : EndsText octets
  spelled : Spells octets

theorem EndsText.append {a b : Bytes} (ha : EndsText a) (hb : EndsText b) : EndsText (a ++ b) := by
  cases a with
  | nil => exact hb
  | cons c a => exact ha

namespace Elements

def nil : Elements where
  toFragment := .blank
  nodes := []
  onto _ := rfl
  starts := endsText_nil
  spelled := spells_utf8 ""

def append (first second : Elements) : Elements where
  octets := first.octets ++ second.octets
  content := first.content.append second.content
  reads := by
    rw [Balanced.lexemes_append]
    exact first.reads.append second.reads fun _ => second.starts
  nodes := first.nodes ++ second.nodes
  onto level := by
    rw [Balanced.onto_append, second.onto, first.onto, List.append_assoc]
  starts := first.starts.append second.starts
  spelled := first.spelled.append second.spelled

/-- Some elements for each member of a list. -/
def flatMap {α : Type} (f : α → Elements) : List α → Elements
  | [] => nil
  | a :: l => (f a).append (flatMap f l)

theorem octets_flatMap {α : Type} (f : α → Elements) (l : List α) :
    (flatMap f l).octets = l.flatMap fun a => (f a).octets := by
  induction l with
  | nil => rfl
  | cons a l ih => rw [flatMap, List.flatMap_cons, ← ih]; rfl

theorem nodes_flatMap {α : Type} (f : α → Elements) (l : List α) :
    (flatMap f l).nodes = l.flatMap fun a => (f a).nodes := by
  induction l with
  | nil => rfl
  | cons a l ih => rw [flatMap, List.flatMap_cons, ← ih]; rfl

/-- No octets are no nodes. -/
theorem nodes_of_isEmpty (e : Elements) (h : e.octets.isEmpty = true) : e.nodes = [] := by
  have hreads := e.reads
  rw [List.isEmpty_iff.mp h, Reads, scan_nil] at hreads
  have honto := e.onto .ended
  cases hc : e.content with
  | nil =>
    rw [hc] at honto
    injection honto with hnodes
    simpa [Level.ended] using hnodes.symm
  | leaf | empty | element => rw [hc] at hreads; cases hreads

end Elements

/-- The tag of a written element: its names are plain, and those of its attributes differ. -/
structure WrittenTag where
  name : String
  attrs : List (String × String)
  named : PlainName name
  attrsNamed : ∀ attr ∈ attrs, PlainName attr.1
  distinct : (attrs.map Prod.fst).Nodup

namespace WrittenTag

def body (tag : WrittenTag) : Bytes := writeTag .doubleQuote tag.name tag.attrs

def pair (tag : WrittenTag) : TagPair where
  tag := tag.body
  close := utf8 tag.name
  opens := stands_startTag tag.named tag.attrsNamed
  closes := stands_endTag tag.named
  matched := by rw [endName_plain tag.named, body, tagName_writeTag tag.named]

theorem spells_body (tag : WrittenTag) : Spells tag.body := by
  refine (spells_utf8 tag.name).append (spells_flatMap fun attr _ => ?_)
  have hspace : Spells [0x20] := spells_utf8 " "
  have hopen : Spells [0x3D, 0x22] := spells_utf8 "=\""
  have hclose : Spells [0x22] := spells_utf8 "\""
  have hvalue := (Escaping.doubleQuote.spells_value attr.2).append hclose
  have hattr := (hspace.append (spells_utf8 attr.1)).append (hopen.append hvalue)
  simpa [writeAttribute] using hattr

theorem tagAttributes_body (tag : WrittenTag) :
    tagAttributes tag.body = ⟨tag.attrs.map (writtenAttribute .doubleQuote), true⟩ :=
  tagAttributes_writeTag tag.named tag.attrsNamed tag.distinct

theorem texts_body (tag : WrittenTag) :
    (tagAttributes tag.body).all.map (fun attr => (attr.name, attr.text?)) =
      tag.attrs.map fun attr => (utf8 attr.1, some attr.2) :=
  texts_writeTag tag.named tag.attrsNamed tag.distinct

/-- A written tag says what its attributes are. -/
theorem attrs_inj {tag other : WrittenTag} (same : tag.body = other.body) :
    tag.attrs = other.attrs := by
  have injective : Function.Injective fun attr : String × String => (utf8 attr.1, some attr.2) :=
    fun a b h => Prod.ext (utf8_inj (Prod.mk.inj h).1) (Option.some.inj (Prod.mk.inj h).2)
  have texts := tag.texts_body
  rw [same, other.texts_body] at texts
  exact List.map_injective_iff.mpr injective texts.symm

end WrittenTag

namespace Elements

/-- An element in the short form. -/
def short (tag : WrittenTag) : Elements where
  toFragment := .empty tag.body (stands_emptyTag tag.named tag.attrsNamed)
  nodes := [.element tag.body [] true]
  onto _ := rfl
  starts := endsText_cons _
  spelled := ((spells_utf8 "<").append tag.spells_body).append (spells_utf8 "/>")

/-- An element between its tags. -/
def enclosed (tag : WrittenTag) (inner : Elements) : Elements where
  toFragment := tag.pair.fragment inner.toFragment
  nodes := [.element tag.body inner.nodes true]
  onto level := by
    show level.cons _ = _
    rw [inner.onto .ended]
    simp [Level.cons, Level.ended, WrittenTag.pair]
  starts := endsText_cons _
  spelled := by
    have hopen := ((spells_utf8 "<").append tag.spells_body).append (spells_utf8 ">")
    have hclose := ((spells_utf8 "</").append (spells_utf8 tag.name)).append (spells_utf8 ">")
    exact hopen.append (inner.spelled.append hclose)

/-- An element as it is written: in the short form if there is nothing in it. -/
def written (tag : WrittenTag) (inner : Elements) : Elements :=
  if inner.octets.isEmpty then short tag else enclosed tag inner

theorem octets_written (tag : WrittenTag) (inner : Elements) :
    (written tag inner).octets = writeElement tag.name tag.attrs inner.octets := by
  unfold written writeElement
  split
  · rfl
  · simp [enclosed, TagPair.fragment, TagPair.around, WrittenTag.pair, WrittenTag.body,
      Lexeme.source]

theorem nodes_written (tag : WrittenTag) (inner : Elements) :
    (written tag inner).nodes = [.element tag.body inner.nodes true] := by
  unfold written
  split
  · rw [inner.nodes_of_isEmpty ‹_›]
    rfl
  · rfl

theorem tags_written (tag : WrittenTag) (inner : Elements) :
    (written tag inner).content.tags = [tag.body] := by
  unfold written
  split <;> rfl

end Elements

/-- Reading elements as a document gives their nodes. -/
theorem topNodes_elements (e : Elements) : topNodes e.octets = e.nodes := by
  have hmark : withoutMark e.octets = e.octets := by
    refine withoutMark_eq ?_
    rintro b hb rfl
    cases e.starts _ hb
  have hread : read e.octets = ⟨e.content.lexemes, true⟩ := read_eq (by rw [hmark]; exact e.reads)
  rw [topNodes, hread, foldr_content, e.onto]
  simp [Level.broken]

end WlanAdmin.Xml
