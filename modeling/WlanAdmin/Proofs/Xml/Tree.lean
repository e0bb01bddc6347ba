import WlanAdmin.Proofs.Xml.Elements

/-!
# WlanAdmin.Proofs.Xml.Tree

The nodes of content that stands on its own.

* `Fragment.tree`        : the nodes of a fragment.
* `topNodes_around`      : the nodes of an element around a fragment.
* `topNodes_of_blanks`   : the nodes of a fragment that is read as a document. If an element comes
  first, or blanks and then an element, there is no byte order mark before it.
-/

namespace WlanAdmin.Xml

/-- White space, or a document type. -/
def Node.IsBlank : Node → Prop
  | .text (some content) => content.all isBlank = true
  | .doctype => True
  | .text none | .element .. => False

instance : (node : Node) → Decidable node.IsBlank
  | .text (some content) => inferInstanceAs (Decidable (content.all _ = true))
  | .doctype => .isTrue trivial
  | .text none | .element .. => .isFalse nofun

theorem prependText_closed (content : Option Bytes) (nodes : List Node) (closed : Bool) :
    Level.prependText content ⟨nodes, closed⟩ =
      ⟨(Level.prependText content ⟨nodes, true⟩).nodes, closed⟩ := by
  simp only [Level.prependText]
  split <;> rfl

theorem prepend_leaf_closed {first : Lexeme} (plain : first.IsLeaf) (nodes : List Node)
    (closed : Bool) :
    (Surroundings.prepend first ⟨⟨nodes, closed⟩, []⟩).level =
      ⟨(Surroundings.prepend first ⟨⟨nodes, true⟩, []⟩).level.nodes, closed⟩ := by
  cases first <;> first | exact prependText_closed _ _ _ | rfl | exact plain.elim

/-- Content has no say in whether its level is closed, nor the other way round. -/
theorem Balanced.onto_closed (content : Balanced) (nodes : List Node) (closed : Bool) :
    content.onto ⟨nodes, closed⟩ = ⟨(content.onto ⟨nodes, true⟩).nodes, closed⟩ := by
  induction content generalizing closed with
  | nil => rfl
  | leaf first plain rest ih =>
    rw [onto, ih closed, prepend_leaf_closed plain, onto, ih true]
  | empty tag rest ih =>
    rw [onto, ih closed]
    rfl
  | element tag inner close matched rest _ ih =>
    rw [onto, ih closed]
    rfl

namespace Fragment

/-- The nodes of a fragment. -/
def tree (f : Fragment) : List Node := (f.content.onto .ended).nodes

theorem onto_ended (f : Fragment) : f.content.onto .ended = ⟨f.tree, true⟩ :=
  f.content.onto_closed [] true

theorem onto_broken (f : Fragment) : f.content.onto .broken = ⟨f.tree, false⟩ :=
  f.content.onto_closed [] false

end Fragment

/-- An element around a fragment is read as such, whatever the fragment begins with. -/
theorem topNodes_around (tags : TagPair) (f : Fragment) :
    topNodes (tags.around f.octets) = [.element tags.tag f.tree true] := by
  have mark : withoutMark (tags.around f.octets) = tags.around f.octets := by
    refine withoutMark_eq ?_
    rintro b ⟨⟩
    decide
  have whole : read (tags.around f.octets) = ⟨(tags.fragment f).content.lexemes, true⟩ :=
    read_eq (by rw [mark]; exact (tags.fragment f).reads)
  rw [topNodes, whole, foldr_content]
  show (Level.broken.cons (.element tags.tag (f.content.onto .ended).nodes
    (f.content.onto .ended).closed)).nodes = _
  rw [f.onto_ended]
  rfl

/-- What begins with an octet of text has a text for its first node, and the octet in front of it. -/
theorem Fragment.tree_of_text {f : Fragment} {b : UInt8} {rest : Bytes} (h : f.octets = b :: rest)
    (text : isTextByte b = true) :
    ∃ content nodes, f.tree = .text content :: nodes ∧ ∀ octets, content = some octets →
      octets.head? = some b := by
  obtain ⟨octets, content, reads⟩ := f
  subst h
  have first := next_text text rest
  cases content with
  | nil => cases reads.eq_nil
  | empty tag others =>
    obtain ⟨after, cut, -⟩ := reads.next_eq
    cases first.symm.trans cut
  | element tag inner close matched others =>
    obtain ⟨after, cut, -⟩ := reads.next_eq
    cases first.symm.trans cut
  | leaf lexeme plain others =>
    obtain ⟨after, cut, -⟩ := reads.next_eq
    cases first.symm.trans cut
    simp only [tree, Balanced.onto, Surroundings.prepend, Level.prependText]
    split
    · refine ⟨_, _, rfl, fun octets joined => ?_⟩
      obtain ⟨more, -, rfl⟩ := Option.map_eq_some_iff.mp joined
      rfl
    · exact ⟨_, _, rfl, fun octets joined => by cases joined; rfl⟩

theorem topNodes_of_blanks {f : Fragment} {lead trail : List Node} {body : Bytes}
    {children : List Node} {closed : Bool} (tree : f.tree = lead ++ .element body children closed :: trail)
    (blank : ∀ node ∈ lead, node.IsBlank) : topNodes f.octets = f.tree := by
  have mark : withoutMark f.octets = f.octets := by
    refine withoutMark_eq ?_
    intro b head marked
    obtain ⟨rest, octets⟩ := List.head?_eq_some_iff.mp head
    obtain ⟨content, nodes, first, starts⟩ := f.tree_of_text octets (by rw [marked]; rfl)
    rw [first] at tree
    cases lead with
    | nil => cases tree
    | cons node lead =>
      injection tree with same
      have here := blank node List.mem_cons_self
      rw [← same] at here
      cases content with
      | none => exact here
      | some octets =>
        obtain ⟨rest, rfl⟩ := List.head?_eq_some_iff.mp (starts octets rfl)
        subst marked
        simp [Node.IsBlank, isBlank] at here
  have whole : read f.octets = ⟨f.content.lexemes, true⟩ :=
    read_eq (by rw [mark]; exact f.reads)
  rw [topNodes, whole, foldr_content]
  show (f.content.onto .broken).nodes = _
  rw [f.onto_broken]

end WlanAdmin.Xml
