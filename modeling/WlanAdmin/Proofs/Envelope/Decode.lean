import WlanAdmin.Proofs.Text.InTurn
import WlanAdmin.Proofs.Xml.Balanced

/-!
# WlanAdmin.Proofs.Envelope.Decode

What is read from a response: the attributes and the exact content of its `response` element, and
the structured error at the top of that content.

* `Legible`          : a tag whose attributes can all be read.
* `ResponseDocument` : a response in its parts.
* `decode_frame`     : the octets around the element and after its start have no say.
* `decode_error`     : which structured error is read.
* `decode_document`  : all of what is read.
-/

namespace WlanAdmin.Xml

/-! ## Attributes -/

/-- A tag whose attributes are well written, and whose values spell texts. -/
structure Legible (body : Bytes) : Prop where
  sound : (tagAttributes body).sound = true
  spelled : ∀ attr ∈ (tagAttributes body).all, attr.text?.isSome

instance (body : Bytes) : Decidable (Legible body) :=
  decidable_of_iff ((tagAttributes body).sound = true ∧
    ∀ attr ∈ (tagAttributes body).all, attr.text?.isSome)
    ⟨fun h => ⟨h.1, h.2⟩, fun h => ⟨h.1, h.2⟩⟩

/-- The resolved value of an attribute, or the empty text if there is none of that name. -/
def attributeText (name : String) (body : Bytes) : String :=
  (((tagAttributes body).all.find? fun attr => attr.name = utf8 name).bind Attribute.text?).getD ""

end WlanAdmin.Xml

namespace WlanAdmin

theorem mapM_ok {α β ε : Type} {f : α → Except ε β} {g : α → β} {l : List α}
    (h : ∀ a ∈ l, f a = .ok (g a)) : l.mapM f = .ok (l.map g) := by
  induction l with
  | nil => rfl
  | cons a l ih =>
    have hl := ih fun b hb => h b (List.mem_cons_of_mem _ hb)
    rw [List.mapM_cons, h a List.mem_cons_self, hl]
    rfl

namespace ResponseEnvelope

open Xml

/-- An attribute with the text that its value spells. -/
def resolveAttribute (attr : Attribute) : Except DecodeError (Bytes × String) :=
  match attr.text? with
  | some value => .ok (attr.name, value)
  | none => .error .malformed

theorem resolveAttribute_error {attr : Attribute} {error : DecodeError}
    (h : resolveAttribute attr = .error error) : error = .malformed := by
  rw [resolveAttribute] at h
  split at h <;> cases h
  rfl

theorem resolveAttribute_ok {attr : Attribute} {pair : Bytes × String}
    (h : resolveAttribute attr = .ok pair) : attr.text?.isSome := by
  rw [resolveAttribute] at h
  split at h
  · rename_i text
    rw [text]
    rfl
  · cases h

theorem resolveAttributes_eq (wanted : Bytes → Bool) (body : Bytes) :
    resolveAttributes wanted body = (do
      let resolved ← ((tagAttributes body).all.filter fun attr => wanted attr.name).mapM
        resolveAttribute
      if (tagAttributes body).sound then return resolved else .error .malformed) := rfl

theorem resolveAttributes_error {wanted : Bytes → Bool} {body : Bytes} {error : DecodeError}
    (h : resolveAttributes wanted body = .error error) : error = .malformed := by
  rw [resolveAttributes_eq] at h
  cases read : ((tagAttributes body).all.filter fun attr => wanted attr.name).mapM
      resolveAttribute with
  | error fault =>
    rw [read] at h
    cases h
    obtain ⟨_, attr, _, _, _, failed⟩ := mapM_eq_error_iff.mp read
    exact resolveAttribute_error failed
  | ok resolved =>
    rw [read] at h
    change (if _ then _ else _) = _ at h
    split at h <;> cases h
    rfl

theorem resolveAttributes_legible {body : Bytes} (h : Legible body) (wanted : Bytes → Bool) :
    resolveAttributes wanted body =
      .ok (((tagAttributes body).all.filter fun attr => wanted attr.name).map
        fun attr => (attr.name, attr.text?.getD "")) := by
  unfold resolveAttributes
  simp only
  rw [mapM_ok (g := fun attr => (attr.name, attr.text?.getD "")), h.sound]
  · rfl
  · intro attr ha
    obtain ⟨text, ht⟩ := Option.isSome_iff_exists.mp (h.spelled attr (List.mem_filter.mp ha).1)
    rw [ht]
    rfl

theorem valueOf_resolved (attrs : List Attribute) (wanted : Bytes → Bool) (name : String)
    (hw : wanted (utf8 name) = true) :
    valueOf name ((attrs.filter fun attr => wanted attr.name).map
        fun attr => (attr.name, attr.text?.getD "")) =
      ((attrs.find? fun attr => attr.name = utf8 name).bind Attribute.text?).getD "" := by
  unfold valueOf
  induction attrs with
  | nil => rfl
  | cons attr attrs ih =>
    by_cases hn : attr.name = utf8 name
    · rw [List.filter_cons, if_pos (by rw [hn, hw]), List.map_cons,
        List.find?_cons_of_pos (by simpa using hn), List.find?_cons_of_pos (by simpa using hn)]
      rfl
    · rw [List.find?_cons_of_neg (by simpa using hn), ← ih]
      by_cases ha : wanted attr.name = true
      · rw [List.filter_cons, if_pos ha, List.map_cons, List.find?_cons_of_neg (by simpa using hn)]
      · rw [List.filter_cons, if_neg ha]

theorem responseAttributes_legible {body : Bytes} (h : Legible body) :
    responseAttributes body = .ok (attributeText "type" body, attributeText "id" body) := by
  have value := valueOf_resolved (tagAttributes body).all
    fun name => name = utf8 "type" || name = utf8 "id"
  rw [responseAttributes, resolveAttributes_legible h, attributeText, attributeText,
    ← value "type" (by simp), ← value "id" (by simp)]
  rfl

/-- The structured error that a tag spells. -/
def errorText (body : Bytes) : Xmsg :=
  ⟨attributeText "type" body, attributeText "msg" body, attributeText "name" body,
    attributeText "lmsg" body⟩

theorem xmsgOfTag_legible {body : Bytes} (h : Legible body) :
    xmsgOfTag body = .ok (errorText body) := by
  have value := fun name => valueOf_resolved (tagAttributes body).all (fun _ => true) name rfl
  rw [xmsgOfTag, resolveAttributes_legible h]
  simp only [errorText, attributeText, ← value]
  rfl

end ResponseEnvelope

/-! ## A response in its parts -/

namespace Xml

/-- White space, a comment or an instruction. -/
def Lexeme.IsMisc : Lexeme → Prop
  | .text content => content.all (fun b => isBlank b || b == 0x0C) = true
  | .comment _ | .instruction _ => True
  | _ => False

instance : (lexeme : Lexeme) → Decidable lexeme.IsMisc
  | .text content => inferInstanceAs (Decidable (content.all _ = true))
  | .comment _ | .instruction _ => .isTrue trivial
  | .reference _ | .cdata _ | .doctype _ | .startTag _ | .emptyTag _ | .endTag _ => .isFalse nofun

theorem Lexeme.IsMisc.isLeaf {lexeme : Lexeme} (h : lexeme.IsMisc) : lexeme.IsLeaf := by
  cases lexeme <;> trivial

/-- Octets that are read as white space, comments and instructions. -/
structure Misc where
  octets : Bytes
  lexemes : List Lexeme
  reads : Reads octets lexemes
  misc : ∀ lexeme ∈ lexemes, lexeme.IsMisc

end Xml

open Xml

/-- No octets at all. -/
def Xml.Misc.blank : Misc := ⟨[], [], reads_nil, fun _ h => absurd h List.not_mem_nil⟩

/-- A `response` element: its tags and its content, or the short form. -/
inductive ResponseElement where
  | full (tags : TagPair) (inner : Fragment)
  | short (tag : Bytes) (stands : (Lexeme.emptyTag tag).Stands)

namespace ResponseElement

def tag : ResponseElement → Bytes
  | full tags _ => tags.tag
  | short tag _ => tag

/-- What stands between the tags; nothing in the short form. -/
def inner : ResponseElement → Fragment
  | full _ inner => inner
  | short .. => .blank

/-- The element as a whole. -/
def fragment : ResponseElement → Fragment
  | full tags inner => tags.fragment inner
  | short tag stands => .empty tag stands

theorem endsText (element : ResponseElement) (rest : Bytes) :
    EndsText (element.fragment.octets ++ rest) := by
  cases element with
  | full tags inner =>
    show EndsText (tags.around inner.octets ++ rest)
    rw [TagPair.around, List.append_assoc]
    exact endsText_source (.startTag tags.tag) rfl _
  | short tag => exact endsText_source (.emptyTag tag) rfl _

theorem last_not_text (element : ResponseElement) :
    ∀ last ∈ element.fragment.content.lexemes.getLast?, last.isText = false := by
  intro last hl
  cases element with
  | full tags inner =>
    rw [fragment, TagPair.fragment, Balanced.lexemes, Balanced.lexemes, ← List.cons_append,
      List.getLast?_concat] at hl
    cases hl
    rfl
  | short tag =>
    cases hl
    rfl

end ResponseElement

/-- What stands around the `response` element of interest. Other elements may come before it, none
of them a `response`, and behind it anything that is properly nested. -/
structure ResponseFrame where
  prolog : Misc
  root : TagPair
  before : Fragment
  after : Fragment
  tail : Misc
  rootNamed : localName (tagName root.tag) = utf8 "ajax-response"
  others : ∀ tag ∈ before.content.tags, localName (tagName tag) ≠ utf8 "response"
  undeclared : ∀ body, .instruction body ∈ tail.lexemes → isDeclaration body = false

/-- The octets of the frame with some octets in it. -/
def ResponseFrame.around (frame : ResponseFrame) (element : Bytes) : Bytes :=
  frame.prolog.octets ++ ((Lexeme.startTag frame.root.tag).source ++ (frame.before.octets ++
    (element ++ (frame.after.octets ++
      ((Lexeme.endTag frame.root.close).source ++ frame.tail.octets)))))

/-- A response of the controller. -/
structure ResponseDocument extends ResponseFrame where
  element : ResponseElement
  named : localName (tagName element.tag) = utf8 "response"

namespace ResponseDocument

def octets (d : ResponseDocument) : Bytes := d.around d.element.fragment.octets

/-- The lexemes behind the element. -/
def restLexemes (d : ResponseDocument) : List Lexeme :=
  d.after.content.lexemes ++ .endTag d.root.close :: d.tail.lexemes

def lexemes (d : ResponseDocument) : List Lexeme :=
  d.prolog.lexemes ++ .startTag d.root.tag ::
    (d.before.content.lexemes ++ (d.element.fragment.content.lexemes ++ d.restLexemes))

theorem reads (d : ResponseDocument) : Reads d.octets d.lexemes := by
  have hrest := d.after.reads.append (d.root.closes.cons d.tail.reads rfl) fun _ =>
    endsText_source (.endTag d.root.close) rfl d.tail.octets
  have helement := d.element.fragment.reads.append hrest fun h => by
    obtain ⟨last, hl, htext⟩ := h
    rw [d.element.last_not_text last hl] at htext
    cases htext
  have hbefore := d.before.reads.append helement fun _ => d.element.endsText _
  refine d.prolog.reads.append (d.root.opens.cons hbefore rfl) fun _ => ?_
  exact endsText_source (.startTag d.root.tag) rfl _

theorem head_misc {lexemes : List Lexeme} (misc : ∀ lexeme ∈ lexemes, lexeme.IsMisc)
    (rest : Bytes) :
    ∀ b ∈ (sources lexemes ++ 0x3C :: rest).head?, b ≠ 0xEF := by
  induction lexemes with
  | nil =>
    rintro b ⟨⟩
    decide
  | cons first lexemes ih =>
    have hfirst := misc first List.mem_cons_self
    have hrest := ih fun lexeme hl => misc lexeme (List.mem_cons_of_mem _ hl)
    cases first with
    | text content =>
      cases content with
      | nil => exact hrest
      | cons b content =>
        rintro c ⟨⟩ rfl
        simp [Lexeme.IsMisc, isBlank] at hfirst
    | comment body => rintro b ⟨⟩; decide
    | instruction body => rintro b ⟨⟩; decide
    | reference | cdata | doctype | startTag | emptyTag | endTag => exact hfirst.elim

theorem withoutMark_octets (d : ResponseDocument) : withoutMark d.octets = d.octets := by
  refine withoutMark_eq ?_
  rw [octets, ResponseFrame.around, ← d.prolog.reads.source]
  exact head_misc d.prolog.misc _

theorem read_octets (d : ResponseDocument) : read d.octets = ⟨d.lexemes, true⟩ := by
  have hprolog := keepMatched_leaves fun lexeme hl => (d.prolog.misc lexeme hl).isLeaf
  have htail := keepMatched_leaves (fun lexeme hl => (d.tail.misc lexeme hl).isLeaf) [] [] true
  rw [List.append_nil] at htail
  rw [Xml.read, d.withoutMark_octets, d.reads]
  simp only [lexemes, restLexemes, hprolog, keepMatched, keepMatched_content, if_pos d.root.matched,
    htail]
  simp [Lexemes.prepend, Lexemes.cons]

end ResponseDocument

namespace ResponseEnvelope

theorem findRoot_leaves {lexemes : List Lexeme} (plain : ∀ lexeme ∈ lexemes, lexeme.IsLeaf)
    (rest : List Lexeme) (complete : Bool) :
    findRoot (lexemes ++ rest) complete = findRoot rest complete := by
  induction lexemes with
  | nil => rfl
  | cons first lexemes ih =>
    have hfirst := plain first List.mem_cons_self
    have hrest := ih fun lexeme hl => plain lexeme (List.mem_cons_of_mem _ hl)
    cases first <;> first | exact hrest | exact hfirst.elim

theorem closeDocument_misc {lexemes : List Lexeme} (misc : ∀ lexeme ∈ lexemes, lexeme.IsMisc)
    (undeclared : ∀ body, .instruction body ∈ lexemes → isDeclaration body = false) :
    closeDocument lexemes true = .ok () := by
  induction lexemes with
  | nil => rfl
  | cons first lexemes ih =>
    have hfirst := misc first List.mem_cons_self
    have hrest := ih (fun lexeme hl => misc lexeme (List.mem_cons_of_mem _ hl))
      fun body hb => undeclared body (List.mem_cons_of_mem _ hb)
    cases first with
    | text content =>
      rw [closeDocument]
      exact (if_pos hfirst).trans hrest
    | comment body => exact hrest
    | instruction body =>
      rw [closeDocument, undeclared body List.mem_cons_self]
      exact hrest
    | reference | cdata | doctype | startTag | emptyTag | endTag => exact hfirst.elim

theorem closeRoot_rest (d : ResponseDocument) : closeRoot 0 d.restLexemes true = .ok () := by
  rw [ResponseDocument.restLexemes, closeRoot_content]
  exact closeDocument_misc d.tail.misc d.undeclared

/-- The octets of the lexemes between two places of a document. -/
theorem cut_sources (document : Bytes) (before inner after : List Lexeme)
    (h : document = sources (before ++ (inner ++ after))) :
    cut document (before ++ (inner ++ after)) (inner ++ after) inner = sources inner := by
  subst h
  simp [cut, sources]

/-- The content of the element of interest. -/
theorem cut_inner (d : ResponseDocument) (tags : TagPair) (inner : Fragment)
    (h : d.element = .full tags inner) :
    cut d.octets d.lexemes (inner.content.lexemes ++ .endTag tags.close :: d.restLexemes)
      inner.content.lexemes = inner.octets := by
  have hlexemes : d.lexemes =
      (d.prolog.lexemes ++ .startTag d.root.tag ::
        (d.before.content.lexemes ++ [.startTag tags.tag])) ++
      (inner.content.lexemes ++ .endTag tags.close :: d.restLexemes) := by
    simp [ResponseDocument.lexemes, h, ResponseElement.fragment, TagPair.fragment, Balanced.lexemes]
  rw [hlexemes, cut_sources _ _ _ _ (by rw [← hlexemes, d.reads.source]), inner.reads.source]

theorem findRoot_document (d : ResponseDocument) :
    findRoot d.lexemes true =
      .ok (d.before.content.lexemes ++ (d.element.fragment.content.lexemes ++ d.restLexemes)) := by
  have hprolog := findRoot_leaves fun lexeme hl => (d.prolog.misc lexeme hl).isLeaf
  rw [ResponseDocument.lexemes, hprolog, findRoot, if_pos d.rootNamed]

/-- What is read depends on the tag of the element and its content only. -/
theorem decode_frame (d : ResponseDocument) :
    decode d.octets = (do
      let (kind, id) ← responseAttributes d.element.tag
      let error ← findXmsg d.element.inner.octets
      return ⟨kind, id, error, d.element.inner.octets⟩) := by
  unfold decode
  rw [d.read_octets]
  simp only [findRoot_document]
  simp only [bind, Except.bind, findResponse_content _ _ _ d.others]
  have named := d.named
  have hcut := cut_inner d
  cases he : d.element with
  | full tags inner =>
    rw [he] at named hcut
    have named : localName (tagName tags.tag) = utf8 "response" := named
    simp only [ResponseElement.fragment, TagPair.fragment, Balanced.lexemes, List.cons_append,
      List.append_assoc, List.nil_append, findResponse, if_pos named, splitElement_close,
      hcut tags inner rfl, closeRoot_rest, ResponseElement.tag, ResponseElement.inner]
  | short tag stands =>
    rw [he] at named
    have named : localName (tagName tag) = utf8 "response" := named
    have herror : findXmsg Fragment.blank.octets = .ok none := findXmsg_fragment .blank
    simp only [ResponseElement.fragment, Fragment.empty, Balanced.lexemes, List.cons_append,
      List.nil_append, findResponse, if_pos named, ResponseElement.tag, ResponseElement.inner,
      closeRoot_rest, herror]
    rfl

theorem bind_eq_ok {ε α β : Type} {made : Except ε α} {next : α → Except ε β} {value : β}
    (h : made >>= next = .ok value) : ∃ part, made = .ok part ∧ next part = .ok value := by
  cases made with
  | error error => cases h
  | ok part => exact ⟨part, rfl, h⟩

theorem bind_eq_error {ε α β : Type} {made : Except ε α} {next : α → Except ε β} {error : ε}
    (h : made >>= next = .error error) :
    made = .error error ∨ ∃ part, made = .ok part ∧ next part = .error error := by
  cases made with
  | error other => cases h; exact .inl rfl
  | ok part => exact .inr ⟨part, rfl, h⟩

/-- Whatever was read, the structured error is the one at the top of the content. -/
theorem decode_error {document : Bytes} {response : ResponseEnvelope}
    (h : decode document = .ok response) : findXmsg response.raw = .ok response.error := by
  obtain ⟨inRoot, -, h⟩ := bind_eq_ok h
  obtain ⟨⟨tag, rest⟩, -, h⟩ := bind_eq_ok h
  cases tag with
  | startTag body =>
    obtain ⟨⟨kind, id⟩, -, h⟩ := bind_eq_ok h
    simp only at h
    split at h
    · cases h
    · obtain ⟨error, found, h⟩ := bind_eq_ok h
      obtain ⟨-, -, h⟩ := bind_eq_ok h
      cases h
      exact found
  | emptyTag body =>
    obtain ⟨⟨kind, id⟩, -, h⟩ := bind_eq_ok h
    obtain ⟨-, -, h⟩ := bind_eq_ok h
    cases h
    exact findXmsg_fragment .blank
  | _ => cases h

/-- Reading a response finds the attributes of its first `response` element, the octets between that
element's tags and the first structured error at the top of them. -/
theorem decode_document (d : ResponseDocument) (legible : Legible d.element.tag)
    (errorLegible : ∀ tag, errorTag? d.element.inner = some tag → Legible tag) :
    decode d.octets = .ok {
      kind := attributeText "type" d.element.tag
      id := attributeText "id" d.element.tag
      error := (errorTag? d.element.inner).map errorText
      raw := d.element.inner.octets } := by
  rw [decode_frame, responseAttributes_legible legible, findXmsg_fragment]
  cases htag : errorTag? d.element.inner with
  | none => rfl
  | some tag =>
    have herror := xmsgOfTag_legible (errorLegible tag htag)
    simp only [herror]
    rfl

/-- A response with another element before the one of interest, which holds a nested `response`, an
end tag in a comment, one in a value, and a structured error. -/
def nestedResponse : ResponseDocument where
  prolog := ⟨utf8 "<?xml version=\"1.0\"?>\n",
    [.instruction (utf8 "?xml version=\"1.0\"?"), .text [0x0A]],
    by decide +kernel, by decide +kernel⟩
  root := ⟨utf8 "ajax-response", utf8 "ajax-response", by decide +kernel, by decide +kernel,
    by decide +kernel⟩
  before := ⟨utf8 "<notice/>", .empty (utf8 "notice") .nil, by decide +kernel⟩
  element := .full ⟨utf8 "response type=\"object\" id=\"a&amp;b\"", utf8 "response",
      by decide +kernel, by decide +kernel, by decide +kernel⟩
    ⟨utf8 "<a><response/></a><!--</response>--><xmsg msg='</response>' lmsg=\"&#x41;\"/>",
      .element (utf8 "a") (.empty (utf8 "response") .nil) (utf8 "a") (by decide +kernel)
        (.leaf (.comment (utf8 "!--</response>--")) trivial
          (.empty (utf8 "xmsg msg='</response>' lmsg=\"&#x41;\"") .nil)),
      by decide +kernel⟩
  after := .blank
  tail := ⟨[0x0A], [.text [0x0A]], by decide +kernel, by decide +kernel⟩
  rootNamed := by decide +kernel
  others := by decide +kernel
  named := by decide +kernel
  undeclared := by simp

theorem decode_document_nested :
    Legible nestedResponse.element.tag ∧
      (∀ tag, errorTag? nestedResponse.element.inner = some tag → Legible tag) ∧
      decode nestedResponse.octets = .ok {
        kind := "object"
        id := "a&b"
        error := some { msg := "</response>", lmsg := "A" }
        raw := utf8
          "<a><response/></a><!--</response>--><xmsg msg='</response>' lmsg=\"&#x41;\"/>" } := by
  have legible : Legible nestedResponse.element.tag := by decide +kernel
  have errorLegible : ∀ tag, errorTag? nestedResponse.element.inner = some tag → Legible tag := by
    intro tag h
    have : errorTag? nestedResponse.element.inner =
        some (utf8 "xmsg msg='</response>' lmsg=\"&#x41;\"") := by
      decide +kernel
    rw [this] at h
    cases h
    decide +kernel
  refine ⟨legible, errorLegible, ?_⟩
  rw [decode_document nestedResponse legible errorLegible]
  exact congrArg Except.ok (by decide +kernel)

end ResponseEnvelope
end WlanAdmin
