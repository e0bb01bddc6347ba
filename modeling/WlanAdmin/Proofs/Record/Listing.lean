import WlanAdmin.Client.Resources
import WlanAdmin.Proofs.Envelope.StatResponse
import WlanAdmin.Proofs.Record.Payload
import WlanAdmin.Proofs.Xml.Tree

/-!
# WlanAdmin.Proofs.Record.Listing

Lists of records among other nodes. A list is read whole and in order if its items stand together,
with blanks between them at most; once anything else has ended it, another item is refused.

* `Items`    : the records of the items among some nodes.
* `Unbroken` : no item stands behind the end of the list.
* `readChildren_items`, `read_unbroken`, `read_broken` : what is read of a list among other nodes.
* `StatDocument.interpret`, `ConfDocument.interpret`   : what is read of a response that holds one.
* `lists_unbroken` : the calls that list stations, the states of WLANs, and WLANs.
* `list_broken_by_sibling` : an element between two stations hides all of them.
-/

namespace WlanAdmin

open Xml

namespace Xml.Node

/-- An item of a list. -/
def IsItem (key : String) : Node → Prop
  | .element body _ _ => localName (tagName body) = utf8 key
  | .text _ | .doctype => False

/-- An item whose name is written in full as another was, or blanks. -/
def Continues (key : String) (name : Bytes) : Node → Prop
  | .element body _ _ => localName (tagName body) = utf8 key ∧ tagName body = name
  | .text content => (Node.text content).IsBlank
  | .doctype => True

/-- A node that is passed over: it is no item, and is sound as far as it is looked at. -/
def IsOther (key : String) : Node → Prop
  | .element body children closed =>
    localName (tagName body) ≠ utf8 key ∧ Shape.skip ⟨body, children, closed⟩ = .ok ()
  | .text content => content.isSome = true
  | .doctype => True

instance (key : String) : (node : Node) → Decidable (node.IsItem key)
  | .element body _ _ => inferInstanceAs (Decidable (localName (tagName body) = utf8 key))
  | .text _ | .doctype => .isFalse id

instance (key : String) (name : Bytes) : (node : Node) → Decidable (node.Continues key name)
  | .element _ _ _ => inferInstanceAs (Decidable (_ ∧ _))
  | .text content => inferInstanceAs (Decidable (Node.text content).IsBlank)
  | .doctype => .isTrue trivial

variable {key : String} {name : Bytes} {node : Node}

theorem IsOther.not_isItem (h : node.IsOther key) : ¬ node.IsItem key := by
  cases node with
  | element => exact h.1
  | text | doctype => exact id

theorem IsOther.continues_iff (h : node.IsOther key) : node.Continues key name ↔ node.IsBlank := by
  cases node with
  | element body children closed =>
    constructor
    · intro continues
      exact h.1 continues.1
    · exact False.elim
  | text => exact Iff.rfl
  | doctype => exact Iff.rfl

end Xml.Node

/-! ## Lists that stand together -/

/-- The items among some nodes are read, one by one, as some records. -/
inductive Items {R : Type} (key : String) (read : ElementNode → Except DecodeError R) :
    List Node → List R → Prop where
  | nil : Items key read [] []
  | item {body : Bytes} {children rest : List Node} {closed : Bool} {record : R} {records : List R} :
      localName (tagName body) = utf8 key → read ⟨body, children, closed⟩ = .ok record →
      Items key read rest records → Items key read (.element body children closed :: rest)
        (record :: records)
  | other {node : Node} {rest : List Node} {records : List R} :
      node.IsOther key → Items key read rest records → Items key read (node :: rest) records

/-- There are no items any more. -/
def Ended (key : String) (nodes : List Node) : Prop := ∀ node ∈ nodes, ¬ node.IsItem key

/-- More items of one name, up to where the list ends. -/
def Continued (key : String) (name : Bytes) (nodes : List Node) : Prop :=
  ∃ block after, nodes = block ++ after ∧ (∀ node ∈ block, node.Continues key name) ∧
    Ended key after

/-- All items have one name, and nothing but blanks between them. -/
def Unbroken (key : String) (nodes : List Node) : Prop :=
  ∃ before name rest, nodes = before ++ rest ∧ Ended key before ∧ Continued key name rest

section Unbroken

variable {key : String} {name : Bytes} {node : Node} {nodes : List Node}

instance : Decidable (Ended key nodes) := inferInstanceAs (Decidable (∀ node ∈ nodes, _))

theorem ended_nil : Ended key [] := nofun

theorem ended_cons : Ended key (node :: nodes) ↔ ¬ node.IsItem key ∧ Ended key nodes :=
  List.forall_mem_cons

theorem ended_cons_of_not (h : ¬ node.IsItem key) :
    Ended key (node :: nodes) ↔ Ended key nodes :=
  ended_cons.trans (and_iff_right h)

theorem not_ended_item {body : Bytes} {children : List Node} {closed : Bool}
    (item : localName (tagName body) = utf8 key) :
    ¬ Ended key (.element body children closed :: nodes) := by
  intro ended
  exact (ended_cons.mp ended).1 item

theorem Ended.continued (h : Ended key nodes) : Continued key name nodes := ⟨[], nodes, rfl, nofun, h⟩

theorem continued_cons (h : node.Continues key name) :
    Continued key name (node :: nodes) ↔ Continued key name nodes := by
  constructor
  · rintro ⟨block, after, split, continues, ended⟩
    cases block with
    | nil =>
      rw [List.nil_append] at split
      exact Ended.continued (ended_cons.mp (split ▸ ended)).2
    | cons first block =>
      injection split with _ split
      exact ⟨block, after, split, fun other mem => continues other (List.mem_cons_of_mem _ mem), ended⟩
  · rintro ⟨block, after, rfl, continues, ended⟩
    refine ⟨node :: block, after, rfl, ?_, ended⟩
    exact List.forall_mem_cons.mpr ⟨h, continues⟩

theorem continued_cons_of_not (h : ¬ node.Continues key name) :
    Continued key name (node :: nodes) ↔ Ended key (node :: nodes) := by
  constructor
  · rintro ⟨block, after, split, continues, ended⟩
    cases block with
    | nil => exact split ▸ ended
    | cons first block =>
      injection split with same _
      exact absurd (continues first List.mem_cons_self) (same ▸ h)
  · exact Ended.continued

theorem Continued.unbroken (h : Continued key name nodes) : Unbroken key nodes :=
  ⟨[], name, nodes, rfl, ended_nil, h⟩

theorem unbroken_cons (h : ¬ node.IsItem key) :
    Unbroken key (node :: nodes) ↔ Unbroken key nodes := by
  constructor
  · rintro ⟨before, name, rest, split, ended, continued⟩
    cases before with
    | nil =>
      rw [List.nil_append] at split
      rw [← split] at continued
      by_cases continues : node.Continues key name
      · exact ((continued_cons continues).mp continued).unbroken
      · have ended := (continued_cons_of_not continues).mp continued
        have done : Continued key name nodes := (ended_cons.mp ended).2.continued
        exact done.unbroken
    | cons first before =>
      injection split with _ split
      exact ⟨before, name, rest, split, (ended_cons.mp ended).2, continued⟩
  · rintro ⟨before, name, rest, rfl, ended, continued⟩
    exact ⟨node :: before, name, rest, rfl, ended_cons.mpr ⟨h, ended⟩, continued⟩

theorem unbroken_item {body : Bytes} {children : List Node} {closed : Bool}
    (item : localName (tagName body) = utf8 key) :
    Unbroken key (.element body children closed :: nodes) ↔ Continued key (tagName body) nodes := by
  have continues : (Node.element body children closed).Continues key (tagName body) := ⟨item, rfl⟩
  constructor
  · rintro ⟨before, name, rest, split, ended, continued⟩
    cases before with
    | nil =>
      rw [List.nil_append] at split
      rw [← split] at continued
      by_cases same : (Node.element body children closed).Continues key name
      · obtain ⟨-, rfl⟩ := same
        exact (continued_cons continues).mp continued
      · exact absurd ((continued_cons_of_not same).mp continued) (not_ended_item item)
    | cons first before =>
      injection split with same _
      rw [← same] at ended
      exact absurd ended (not_ended_item item)
  · intro continued
    exact ((continued_cons continues).mpr continued).unbroken

end Unbroken

/-! ## Reading a list -/

namespace Shape

variable {R : Type}

/-- An item of a list. -/
def listRule (read : ElementNode → Except DecodeError R) : ChildRule (List R) :=
  .listed fun element before => do return before ++ [← read element]

/-- The items of a list, and nothing else. -/
def listOf (key : String) (read : ElementNode → Except DecodeError R) :
    Shape (List R) (List R) where
  start := []
  children := [(key, listRule read)]
  finish := .ok

theorem readFields_nil {P : Type} (seen : List String) (attrs : List Attribute) (record : P) :
    readFields [] seen attrs record = .ok record := by
  induction attrs with
  | nil => rfl
  | cons attr attrs ih => exact ih

section Children

variable {P : Type} {key : String} {rule : ChildRule P} {seen : List String} {list : Option Bytes}
  {node : Node} {rest : List Node} {record : P}

/-- Other nodes are passed over, but only blanks leave a list as it is. -/
theorem readChildren_other (other : node.IsOther key) :
    readChildren [(key, rule)] seen list (node :: rest) record =
      readChildren [(key, rule)] seen (if node.IsBlank then list else none) rest record := by
  cases node with
  | doctype => rw [readChildren, if_pos (show Node.doctype.IsBlank from trivial)]
  | text content =>
    cases content with
    | none => cases other
    | some content => rfl
  | element body children closed =>
    have unknown : [(key, rule)].find? (fun rule => utf8 rule.1 = localName (tagName body)) =
        none := by
      simpa using fun same => other.1 same.symm
    have solid : ¬ (Node.element body children closed).IsBlank := id
    rw [readChildren, unknown, if_neg solid]
    simp only [other.2]

theorem readChildren_others {others : List Node} (other : ∀ node ∈ others, node.IsOther key)
    (seen : List String) (list : Option Bytes) (rest : List Node) (record : P) :
    ∃ list', readChildren [(key, rule)] seen list (others ++ rest) record =
      readChildren [(key, rule)] seen list' rest record := by
  induction others generalizing list with
  | nil => exact ⟨list, rfl⟩
  | cons node others ih =>
    have passed := ih fun node mem => other node (List.mem_cons_of_mem _ mem)
    obtain ⟨list', passed⟩ := passed (if node.IsBlank then list else none)
    exact ⟨list', (readChildren_other (other node List.mem_cons_self)).trans passed⟩

variable {body : Bytes} {children : List Node} {closed : Bool}

theorem find?_item (item : localName (tagName body) = utf8 key) :
    [(key, rule)].find? (fun rule => utf8 rule.1 = localName (tagName body)) =
      some (key, rule) := by
  simp [item]

end Children

section Items

variable {key : String} {read : ElementNode → Except DecodeError R} {seen : List String}
  {list : Option Bytes} {rest nodes : List Node} {acc records : List R}

section Item

variable {body : Bytes} {children : List Node} {closed : Bool} {record : R}

theorem readChildren_item (item : localName (tagName body) = utf8 key)
    (ok : read ⟨body, children, closed⟩ = .ok record)
    (here : key ∈ seen → list = some (tagName body)) :
    readChildren [(key, listRule read)] seen list (.element body children closed :: rest) acc =
      readChildren [(key, listRule read)] (key :: seen) (some (tagName body)) rest
        (acc ++ [record]) := by
  refine readChildren_of_listed (find?_item item) here ?_
  rw [ok]
  rfl

theorem readChildren_refused (item : localName (tagName body) = utf8 key) (before : key ∈ seen)
    (elsewhere : list ≠ some (tagName body)) :
    readChildren [(key, listRule read)] seen list (.element body children closed :: rest) acc =
      .error .mismatch := by
  rw [readChildren, find?_item item]
  exact if_pos ⟨before, elsewhere⟩

end Item

open Classical in
/-- Behind its end a list is over. -/
theorem readChildren_ended (items : Items key read nodes records) (before : key ∈ seen) :
    readChildren [(key, listRule read)] seen none nodes acc =
      if Ended key nodes then .ok (acc ++ records) else .error .mismatch := by
  induction items with
  | nil => rw [if_pos ended_nil, List.append_nil, readChildren]
  | item item ok rest _ =>
    rw [readChildren_refused item before (Option.some_ne_none _).symm,
      if_neg (not_ended_item item)]
  | other other rest ih =>
    rw [readChildren_other other, ite_self, ih]
    simp only [ended_cons_of_not other.not_isItem]

open Classical in
/-- A list goes on with items of the name that it began with. -/
theorem readChildren_continued {name : Bytes} (items : Items key read nodes records)
    (before : key ∈ seen) :
    readChildren [(key, listRule read)] seen (some name) nodes acc =
      if Continued key name nodes then .ok (acc ++ records) else .error .mismatch := by
  -- an item of the name goes on, and anything else but a blank leads to `readChildren_ended`
  induction items generalizing seen acc with
  | nil => rw [if_pos ended_nil.continued, List.append_nil, readChildren]
  | @item body children rest closed record records item ok _ ih =>
    by_cases same : tagName body = name
    · subst same
      rw [readChildren_item item ok fun _ => rfl, ih List.mem_cons_self, List.append_assoc]
      have go : (Node.element body children closed).Continues key (tagName body) := ⟨item, rfl⟩
      simp only [continued_cons go, List.singleton_append]
    · have stop : ¬ (Node.element body children closed).Continues key name := fun h => same h.2
      rw [readChildren_refused item before fun h => same (Option.some.inj h).symm,
        if_neg ((continued_cons_of_not stop).not.mpr (not_ended_item item))]
  | @other node rest records other items ih =>
    rw [readChildren_other other]
    by_cases blank : node.IsBlank
    · rw [if_pos blank, ih before]
      simp only [continued_cons (other.continues_iff.mpr blank)]
    · rw [if_neg blank, readChildren_ended items before]
      simp only [continued_cons_of_not (other.continues_iff.not.mpr blank),
        ended_cons_of_not other.not_isItem]

open Classical in
/-- A list is read if its items stand together. -/
theorem readChildren_items (items : Items key read nodes records) (fresh : key ∉ seen) :
    readChildren [(key, listRule read)] seen list nodes acc =
      if Unbroken key nodes then .ok (acc ++ records) else .error .mismatch := by
  induction items generalizing list with
  | nil =>
    have done : Continued key [] [] := ended_nil.continued
    rw [if_pos done.unbroken, List.append_nil, readChildren]
  | item item ok rest _ =>
    rw [readChildren_item item ok fun seen => absurd seen fresh,
      readChildren_continued rest List.mem_cons_self, List.append_assoc]
    simp only [unbroken_item item, List.singleton_append]
  | other other _ ih =>
    rw [readChildren_other other, ih]
    simp only [unbroken_cons other.not_isItem]

/-- The element of a list is read if its items stand together. -/
theorem read_unbroken {body : Bytes} (sound : (tagAttributes body).sound = true)
    (items : Items key read nodes records) (unbroken : Unbroken key nodes) :
    (listOf key read).read ⟨body, nodes, true⟩ = .ok records := by
  have children : readChildren [(key, listRule read)] [] none nodes [] = .ok records := by
    rw [readChildren_items items List.not_mem_nil, if_pos unbroken, List.nil_append]
  simp only [read_sound _ sound, gather, listOf, readFields_nil, bind, Except.bind, children]

theorem read_broken {body : Bytes} (sound : (tagAttributes body).sound = true)
    (items : Items key read nodes records) (broken : ¬ Unbroken key nodes) :
    (listOf key read).read ⟨body, nodes, true⟩ = .error .mismatch := by
  have children : readChildren [(key, listRule read)] [] none nodes [] = .error .mismatch := by
    rw [readChildren_items items List.not_mem_nil, if_neg broken]
  simp only [read_sound _ sound, gather, listOf, readFields_nil, bind, Except.bind, children]

end Items

section Within

variable {P : Type} {name : String} {inner : Shape P R} {body : Bytes}
  {lead children trail : List Node} {closed : Bool}

/-- The child that is needed. -/
def withinRule (inner : Shape P R) : ChildRule (Option R) :=
  .single fun element _ => do return some (← inner.read element)

theorem readChildren_within (named : localName (tagName body) = utf8 name)
    (before : ∀ node ∈ lead, node.IsOther name) (behind : ∀ node ∈ trail, node.IsOther name) :
    readChildren [(name, withinRule inner)] [] none
        (lead ++ .element body children closed :: trail) none =
      (inner.read ⟨body, children, closed⟩).map some := by
  obtain ⟨list, passed⟩ := readChildren_others before [] none
    (.element body children closed :: trail) none
  have fresh : name ∉ ([] : List String) := List.not_mem_nil
  rw [passed, readChildren, find?_item named]
  simp only [withinRule, if_neg fresh]
  cases inner.read ⟨body, children, closed⟩ with
  | error error => rfl
  | ok value =>
    obtain ⟨list, passed⟩ := readChildren_others behind [name] none [] (some value)
    rw [List.append_nil] at passed
    exact passed.trans (by rw [readChildren]; rfl)

/-- An element that is needed is read wherever it stands among others. -/
theorem read_within {tag : Bytes} (sound : (tagAttributes tag).sound = true)
    (named : localName (tagName body) = utf8 name) (before : ∀ node ∈ lead, node.IsOther name)
    (behind : ∀ node ∈ trail, node.IsOther name) :
    (within name inner).read ⟨tag, lead ++ .element body children closed :: trail, true⟩ =
      inner.read ⟨body, children, closed⟩ := by
  have nodes : (within name inner).gather (tagAttributes tag).all
      (lead ++ .element body children closed :: trail) =
        (inner.read ⟨body, children, closed⟩).map some := by
    show (readFields [] [] _ none >>= fun record =>
      readChildren [(name, withinRule inner)] [] none _ record) = _
    rw [readFields_nil]
    exact readChildren_within named before behind
  rw [read_sound _ sound, nodes]
  cases inner.read ⟨body, children, closed⟩ <;> rfl

end Within

end Shape

/-! ## Responses that hold a list -/

/-- The tags that a statistics response is wrapped in. -/
def wrapperTags : TagPair where
  tag := utf8 "response"
  close := utf8 "response"
  opens := by decide +kernel
  closes := stands_responseClose
  matched := by decide +kernel

theorem wrapResponse_eq (content : Bytes) : wrapResponse content = wrapperTags.around content := by
  have opens : (Lexeme.startTag (utf8 "response")).source = utf8 "<response>" := by decide +kernel
  have closes : (Lexeme.endTag (utf8 "response")).source = utf8 "</response>" := by decide +kernel
  rw [wrapResponse, TagPair.around, wrapperTags, opens, closes, List.append_assoc]

/-- A response with an element at the top of its content. -/
structure HoldingDocument extends ResponseDocument where
  legible : Legible element.tag
  spelled : Spells element.inner.octets
  lead : List Node
  list : Bytes
  nodes : List Node
  trail : List Node
  tree : element.inner.tree = lead ++ .element list nodes true :: trail
  sound : (tagAttributes list).sound = true

/-- A statistics response with one element of some name, among any others. A structured error is no
more than another one, if it can be read. -/
structure StatDocument (name : String) extends HoldingDocument where
  listNamed : localName (tagName list) = utf8 name
  leadOther : ∀ node ∈ lead, node.IsOther name
  trailOther : ∀ node ∈ trail, node.IsOther name
  errorLegible : ResponseEnvelope.ErrorLegible element.inner

/-- A response without a structured error, in whose content an element comes first. -/
structure ConfDocument extends HoldingDocument where
  leadBlank : ∀ node ∈ lead, node.IsBlank
  noError : ResponseEnvelope.errorTag? element.inner = none

/-- An element is read from the statistics it stands in. -/
theorem StatDocument.interpret {P R : Type} {name : String} (d : StatDocument name)
    (inner : Shape P R) (request : RequestEnvelope) :
    (Call.statOf (Payload.decode (.within name inner)) request).interpret d.octets =
      (inner.read ⟨d.list, d.nodes, true⟩).mapError .decode := by
  have spelled : Spells (wrapResponse d.element.inner.octets) :=
    ((spells_utf8 "<response>").append d.spelled).append (spells_utf8 "</response>")
  have plain : (tagAttributes wrapperTags.tag).sound = true := by decide +kernel
  have read : Payload.decode (.within name inner) (wrapResponse d.element.inner.octets) =
      inner.read ⟨d.list, d.nodes, true⟩ := by
    rw [Payload.decode, spelled.isNone, if_neg Bool.false_ne_true, wrapResponse_eq, topNodes_around,
      d.tree]
    exact Shape.read_within plain d.listNamed d.leadOther d.trailOther
  simp only [Call.statOf, Call.decoding, StatResponse.decode_of_legible _ _ d.legible,
    if_pos d.errorLegible, read]
  cases inner.read ⟨d.list, d.nodes, true⟩ <;> rfl

/-- An element is read from the content that it begins. -/
theorem ConfDocument.interpret {P R : Type} (d : ConfDocument) (shape : Shape P R)
    (request : RequestEnvelope) :
    (Call.confOf (Payload.decode shape) request).interpret d.octets =
      (shape.read ⟨d.list, d.nodes, true⟩).mapError .decode := by
  have first : ∀ lead : List Node, (∀ node ∈ lead, node.IsBlank) →
      Payload.firstElement (lead ++ .element d.list d.nodes true :: d.trail) =
        .ok ⟨d.list, d.nodes, true⟩ := by
    intro lead blank
    induction lead with
    | nil => rfl
    | cons node lead ih =>
      have here := blank node List.mem_cons_self
      have rest := ih fun node mem => blank node (List.mem_cons_of_mem _ mem)
      cases node with
      | doctype => exact rest
      | element => exact here.elim
      | text content =>
        cases content with
        | none => exact here.elim
        | some content => exact (if_pos here).trans rest
  have read : Payload.decode shape d.element.inner.octets = shape.read ⟨d.list, d.nodes, true⟩ := by
    rw [Payload.decode, d.spelled.isNone, if_neg Bool.false_ne_true,
      topNodes_of_blanks d.tree d.leadBlank, d.tree, first d.lead d.leadBlank]
    rfl
  rw [Call.confOf_document _ _ _ d.legible d.noError, Call.decoding, read]
  cases shape.read ⟨d.list, d.nodes, true⟩ <;> rfl

/-! ## The calls that list -/

/-- What a call makes of a list: all its records, in order, if the items stand together. -/
structure Lists {R : Type} (call : Call (List R)) (key : String)
    (read : ElementNode → Except DecodeError R) (d : HoldingDocument) : Prop where
  whole : ∀ records, Items key read d.nodes records → Unbroken key d.nodes →
    call.interpret d.octets = .ok records
  broken : ∀ records, Items key read d.nodes records → ¬ Unbroken key d.nodes →
    call.interpret d.octets = .error (.decode .mismatch)

theorem Lists.of_interpret {R : Type} {call : Call (List R)} {key : String}
    {read : ElementNode → Except DecodeError R} {d : HoldingDocument}
    (h : call.interpret d.octets =
      ((Shape.listOf key read).read ⟨d.list, d.nodes, true⟩).mapError .decode) :
    Lists call key read d := by
  constructor
  · intro records items unbroken
    rw [h, Shape.read_unbroken d.sound items unbroken]
    rfl
  · intro records items broken
    rw [h, Shape.read_broken d.sound items broken]
    rfl

/-- Stations, the states of WLANs, and WLANs are listed whole and in order, whatever stands around
them, if nothing stands between them. -/
theorem lists_unbroken (stat : StatDocument "apstamgr-stat") (conf : ConfDocument)
    (wlan : Option String) :
    Lists (Station.listCall wlan) "client" Station.shape.read stat.toHoldingDocument ∧
      Lists Wlan.statusesCall "wlan" WlanStatus.shape.read stat.toHoldingDocument ∧
      Lists Wlan.listCall "wlansvc" Wlan.shape.read conf.toHoldingDocument := by
  refine ⟨?_, ?_, ?_⟩
  · exact .of_interpret (stat.interpret Station.listShape _)
  · exact .of_interpret (stat.interpret WlanStatus.listShape _)
  · exact .of_interpret (conf.interpret Wlan.listShape _)

/-- A response that holds a list and nothing else. -/
def HoldingDocument.bare (list : Bytes) (nodes : Balanced) (octets : Bytes)
    (matched : endName list = tagName list) (sound : (tagAttributes list).sound = true)
    (reads : Xml.Reads octets (Balanced.element list nodes list matched .nil).lexemes)
    (spelled : Spells octets) : HoldingDocument where
  toResponseDocument := .bare ⟨octets, _, reads⟩
  legible := ResponseDocument.legible_bare _
  spelled
  lead := []
  list
  nodes := (nodes.onto .ended).nodes
  trail := []
  tree := by
    show [Node.element _ _ (nodes.onto .ended).closed] = _
    rw [Level.ended, nodes.onto_closed]
    rfl
  sound

/-- Two stations with blanks between them, and other elements around them. -/
def closeStations : StatDocument "apstamgr-stat" where
  toHoldingDocument := .bare (utf8 "apstamgr-stat")
    (.empty (utf8 "ap") (.empty (utf8 "client") (.leaf (.text [0x0A]) trivial
      (.empty (utf8 "client wlan-id=\"3\"") (.empty (utf8 "ap") .nil)))))
    (utf8 "<apstamgr-stat><ap/><client/>\n<client wlan-id=\"3\"/><ap/></apstamgr-stat>")
    (by decide +kernel) (by decide +kernel) (by decide +kernel) (spells_utf8 _)
  listNamed := by decide +kernel
  leadOther := nofun
  trailOther := nofun
  errorLegible := by decide +kernel

/-- A list without a WLAN. -/
def noWlans : ConfDocument where
  toHoldingDocument := .bare (utf8 "wlansvc-list") .nil (utf8 "<wlansvc-list></wlansvc-list>")
    (by decide +kernel) (by decide +kernel) (by decide +kernel) (spells_utf8 _)
  leadBlank := nofun
  noError := by decide +kernel

theorem lists_unbroken_stations :
    Items "client" Station.shape.read closeStations.nodes [{}, { wlanId := 3 }] ∧
      Unbroken "client" closeStations.nodes ∧
      (Station.listCall none).interpret closeStations.octets = .ok [{}, { wlanId := 3 }] ∧
      Wlan.listCall.interpret noWlans.octets = .ok [] := by
  have items : Items "client" Station.shape.read closeStations.nodes [{}, { wlanId := 3 }] := by
    refine .other ⟨by decide +kernel, rfl⟩ (.item (by decide +kernel) (by decide +kernel) ?_)
    refine .other rfl (.item (by decide +kernel) (by decide +kernel) ?_)
    exact .other ⟨by decide +kernel, rfl⟩ .nil
  have unbroken : Unbroken "client" closeStations.nodes := by
    refine (unbroken_cons (by decide +kernel)).mpr ((unbroken_item (by decide +kernel)).mpr ?_)
    refine (continued_cons (by decide +kernel)).mpr ((continued_cons (by decide +kernel)).mpr ?_)
    exact Ended.continued (by decide +kernel)
  have empty : Continued "wlansvc" [] noWlans.nodes := ended_nil.continued
  have lists := lists_unbroken closeStations noWlans none
  refine ⟨items, unbroken, lists.1.whole _ items unbroken, ?_⟩
  exact lists.2.2.whole [] .nil empty.unbroken

/-- Two stations with another element between them. -/
def separateStations : StatDocument "apstamgr-stat" where
  toHoldingDocument := .bare (utf8 "apstamgr-stat")
    (.empty (utf8 "client") (.empty (utf8 "ap") (.empty (utf8 "client") .nil)))
    (utf8 "<apstamgr-stat><client/><ap/><client/></apstamgr-stat>")
    (by decide +kernel) (by decide +kernel) (by decide +kernel) (spells_utf8 _)
  listNamed := by decide +kernel
  leadOther := nofun
  trailOther := nofun
  errorLegible := by decide +kernel

/-- An element between two stations is enough to have both refused. -/
theorem list_broken_by_sibling :
    Items "client" Station.shape.read separateStations.nodes [{}, {}] ∧
      (Station.listCall none).interpret separateStations.octets = .error (.decode .mismatch) := by
  refine ⟨?_, ?_⟩
  · refine .item (by decide +kernel) (by decide +kernel) ?_
    refine .other ⟨by decide +kernel, rfl⟩ ?_
    exact .item (by decide +kernel) (by decide +kernel) .nil
  · decide +kernel

end WlanAdmin
