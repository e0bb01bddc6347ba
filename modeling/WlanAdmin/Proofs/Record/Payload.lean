import WlanAdmin.Client.Call
import WlanAdmin.Proofs.Envelope.Decode
import WlanAdmin.Proofs.Record.Transfer

/-!
# WlanAdmin.Proofs.Record.Payload

From the octets of a response to the record in it, if what the response holds are written elements.

* `readChildren_single`, `readChildren_listed` : a child element is given to its reader.
* `gather`, `read_sound` : an element is read as its attributes and its nodes.
* `Payload.decode_elements` : a payload is read by the shape of its first element.
* `Call.confOf_document`, `Call.confOf_elements` : a response is read as its payload.
-/

namespace WlanAdmin

open Xml

namespace Shape

variable {P : Type} {rules : List (String × ChildRule P)} {tag : WrittenTag} {seen : List String}
  {list : Option Bytes} {children rest : List Node} {record record' : P}

theorem localName_body (tag : WrittenTag) : localName (tagName tag.body) = utf8 tag.name := by
  rw [WrittenTag.body, tagName_writeTag tag.named, localName_plain tag.named]

theorem readChildren_single (name : String) {reader : ElementNode → P → Except DecodeError P}
    (known : rules.find? (fun rule => utf8 rule.1 = utf8 tag.name) = some (name, .single reader))
    (fresh : name ∉ seen) (hread : reader ⟨tag.body, children, true⟩ record = .ok record') :
    readChildren rules seen list (.element tag.body children true :: rest) record =
      readChildren rules (name :: seen) none rest record' := by
  rw [readChildren, localName_body, known]
  simp only [if_neg fresh, hread]

theorem readChildren_of_listed {name : String} {reader : ElementNode → P → Except DecodeError P}
    {body : Bytes} {closed : Bool}
    (known : rules.find? (fun rule => utf8 rule.1 = localName (tagName body)) =
      some (name, .listed reader))
    (unbroken : name ∈ seen → list = some (tagName body))
    (hread : reader ⟨body, children, closed⟩ record = .ok record') :
    readChildren rules seen list (.element body children closed :: rest) record =
      readChildren rules (name :: seen) (some (tagName body)) rest record' := by
  have hlist : ¬ (name ∈ seen ∧ list ≠ some (tagName body)) := fun h => h.2 (unbroken h.1)
  rw [readChildren, known]
  simp only [if_neg hlist, hread]

theorem readChildren_listed (name : String) {reader : ElementNode → P → Except DecodeError P}
    (known : rules.find? (fun rule => utf8 rule.1 = utf8 tag.name) = some (name, .listed reader))
    (unbroken : name ∈ seen → list = some (utf8 tag.name))
    (hread : reader ⟨tag.body, children, true⟩ record = .ok record') :
    readChildren rules seen list (.element tag.body children true :: rest) record =
      readChildren rules (name :: seen) (some (utf8 tag.name)) rest record' := by
  have hname : tagName tag.body = utf8 tag.name := by
    rw [WrittenTag.body, tagName_writeTag tag.named]
  rw [← hname] at unbroken ⊢
  exact readChildren_of_listed (by rw [localName_body, known]) unbroken hread

/-- What the attributes and the nodes of an element say. -/
def gather {R : Type} (shape : Shape P R) (attrs : List Attribute) (children : List Node) :
    Except DecodeError P := do
  let record ← readFields shape.fields [] attrs shape.start
  readChildren shape.children [] none children record

theorem read_sound {R : Type} (shape : Shape P R) {body : Bytes}
    (sound : (tagAttributes body).sound = true) :
    shape.read ⟨body, children, true⟩ =
      shape.gather (tagAttributes body).all children >>= shape.finish := by
  rw [read, gather, sound]
  cases readFields shape.fields [] (tagAttributes body).all shape.start <;> rfl

end Shape

/-- A payload of one element is read by the shape of that element. -/
theorem Payload.decode_elements {P R : Type} (shape : Shape P R) (e : Elements) {body : Bytes}
    {children : List Node} {closed : Bool} (h : e.nodes = [.element body children closed]) :
    Payload.decode shape e.octets = shape.read ⟨body, children, closed⟩ := by
  rw [Payload.decode, e.spelled.isNone, if_neg Bool.false_ne_true, topNodes_elements, h]
  rfl

/-- An element of another name is no structured error. -/
theorem errorTag?_elements (e : Elements) (tag : WrittenTag) (h : e.content.tags = [tag.body])
    (other : tag.name ≠ "xmsg") : ResponseEnvelope.errorTag? e.toFragment = none := by
  have hne : utf8 tag.name ≠ utf8 "xmsg" := fun he => other (utf8_inj he)
  rw [ResponseEnvelope.errorTag?, h, List.find?_cons_of_neg, List.find?_nil]
  rw [Shape.localName_body]
  simpa using hne

/-- Whoever asked gets to read the payload, if it holds no structured error. -/
theorem Call.confOf_document {α : Type} (payload : Bytes → Except DecodeError α)
    (request : RequestEnvelope) (d : ResponseDocument) (legible : Legible d.element.tag)
    (sound : ResponseEnvelope.errorTag? d.element.inner = none) :
    (Call.confOf payload request).interpret d.octets =
      Call.decoding payload d.element.inner.octets := by
  have herror := ResponseEnvelope.findXmsg_fragment d.element.inner
  rw [sound] at herror
  have hdecode : ResponseEnvelope.decode d.octets =
      .ok ⟨attributeText "type" d.element.tag, attributeText "id" d.element.tag, none,
        d.element.inner.octets⟩ := by
    rw [ResponseEnvelope.decode_frame, ResponseEnvelope.responseAttributes_legible legible, herror]
    rfl
  simp only [Call.confOf, Call.readConf, hdecode]
  rfl

theorem Call.confOf_elements {α : Type} (payload : Bytes → Except DecodeError α)
    (request : RequestEnvelope) (frame : ResponseFrame) (tags : TagPair)
    (named : localName (tagName tags.tag) = utf8 "response") (legible : Legible tags.tag)
    (e : Elements) (sound : ResponseEnvelope.errorTag? e.toFragment = none) :
    (Call.confOf payload request).interpret (frame.around (tags.around e.octets)) =
      Call.decoding payload e.octets := by
  let document : ResponseDocument :=
    { toResponseFrame := frame, element := .full tags e.toFragment, named }
  exact Call.confOf_document payload request document legible sound

end WlanAdmin
