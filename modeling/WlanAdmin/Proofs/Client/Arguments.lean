import WlanAdmin.Client.Resources
import WlanAdmin.Proofs.Envelope.Request
import WlanAdmin.Proofs.Field.HardwareAddress
import WlanAdmin.Proofs.Record.Transfer
import WlanAdmin.Proofs.Xml.Tree

/-!
# WlanAdmin.Proofs.Client.Arguments

What a caller gives cannot get out of the element that it is written to. Names of stations and WLANs
are any texts, yet the request has one element for its payload, and its attributes are read as the
names and values that were given.

* `Argument`, `Argument.Spells` : the values of a payload, and the texts that are read as them.
* `Filled`              : the calls that write what a caller gave.
* `RequestEnvelope.read_asking` : a request with an element for its payload, read again.
* `Filled.arguments_read_back` : what is read of each of the calls.
* `Filled.goal_injective` : no two of them send the same.
-/

namespace WlanAdmin

open Xml

/-! ## Arguments -/

/-- A value in a payload. -/
inductive Argument where
  | text (given : String)
  | address (given : HardwareAddress)
  | flag (given : Bool)
  | number (given : UInt32)
  deriving DecidableEq

namespace Argument

def write : Argument → String
  | text given => given
  | address given => given.write
  | flag given => Codec.bit.write given
  | number given => writeInteger given.toNat

/-- A text is read as a value. -/
def Spells (text : String) : Argument → Prop
  | .text given => text = given
  | address given => HardwareAddress.codec.read text = .ok given
  | flag given => Codec.bit.read text = .ok given
  | number given => IntegerRange.unsigned32.read text = .ok given.toNat

theorem spells_write (argument : Argument) : Spells argument.write argument := by
  cases argument with
  | text given => rfl
  | address given => exact HardwareAddress.codec_lawful given
  | flag given => exact Codec.bit_lawful given
  | number given => exact IntegerRange.read_writeInteger (RecordField.unsigned32_contains given)

theorem number_inj {given other : UInt32}
    (same : writeInteger given.toNat = writeInteger other.toNat) : given = other := by
  have first := IntegerRange.read_writeInteger (RecordField.unsigned32_contains given)
  rw [same, IntegerRange.read_writeInteger (RecordField.unsigned32_contains other)] at first
  refine UInt32.toNat_inj.mp ?_
  have numbers := Except.ok.inj first
  omega

end Argument

/-! ## Requests with an element for their payload -/

/-- A request with an element of no content: the document is the root around it, and the attributes
are read as they were given. -/
theorem RequestEnvelope.read_asking (envelope : RequestEnvelope) (element : WrittenTag) :
    let body := (envelope.asking (writeElement element.name element.attrs [])).encode
    checkWellFormed body = .ok () ∧
      read body = ⟨[.startTag envelope.tag, .emptyTag element.body,
        .endTag (utf8 "ajax-request")], true⟩ ∧
      topNodes body = [.element envelope.tag [.element element.body [] true] true] := by
  let inner : Fragment := .empty element.body (stands_emptyTag element.named element.attrsNamed)
  intro body
  have body_eq : body = envelope.tags.around inner.octets :=
    encode_eq (envelope.asking (writeElement element.name element.attrs []))
  have mark : withoutMark body = body :=
    withoutMark_eq fun b first => by cases first; decide
  have whole : Xml.Reads (withoutMark body) (envelope.tags.fragment inner).content.lexemes := by
    rw [mark, body_eq]
    exact (envelope.tags.fragment inner).reads
  refine ⟨checkWellFormed_encode (envelope.asking _) inner.content inner.reads,
    read_eq whole, ?_⟩
  rw [body_eq]
  exact topNodes_around envelope.tags inner

/-! ## The calls -/

/-- The calls that write what a caller gave into their payload. -/
inductive Filled where
  | rename (station : HardwareAddress) (name : String)
  | setFavourite (station : HardwareAddress) (on : Bool)
  | setLegacy (station : HardwareAddress) (on : Bool)
  | listByWlan (wlan : String)
  | delete (id : UInt32)

namespace Filled

def goal : Filled → Goal
  | rename station name => (Station.commandCall (.rename name) station).goal
  | setFavourite station on => (Station.commandCall (.setFavourite on) station).goal
  | setLegacy station on => (Station.commandCall (.setLegacy on) station).goal
  | listByWlan wlan => (Station.listCall (some wlan)).goal
  | delete id => (Wlan.deleteCall id).goal

/-- The name of the element that a call writes. -/
def name : Filled → String
  | rename .. | setFavourite .. | setLegacy .. => "xcmd"
  | listByWlan _ => "client"
  | delete _ => "wlansvc"

/-- What the attributes of the element say, in their order. -/
def arguments : Filled → List (String × Argument)
  | rename station name =>
    [("cmd", .text "rename"), ("tag", .text "client"), ("client", .address station),
      ("rename", .text name)]
  | setFavourite station on =>
    [("cmd", .text "favourite"), ("tag", .text "client"), ("enable", .flag on),
      ("client", .address station)]
  | setLegacy station on =>
    [("cmd", .text "mark-iot"), ("tag", .text "client"), ("enable", .flag on),
      ("client", .address station)]
  | listByWlan wlan => [("wlan", .text wlan), ("USE_REGEX", .text "false")]
  | delete id => [("id", .number id)]

def envelope : Filled → RequestEnvelope
  | rename .. | setFavourite .. | setLegacy .. => .command stationComp
  | listByWlan _ => .stat stationComp
  | delete _ => .conf .delObj wlanComp

def writtenTag (call : Filled) : WrittenTag where
  name := call.name
  attrs := call.arguments.map fun attr => (attr.1, attr.2.write)
  named := by cases call <;> simp only [name] <;> decide
  attrsNamed := by
    have plain : ∀ attr ∈ call.arguments, PlainName attr.1 := by
      cases call <;> simp only [arguments, List.forall_mem_cons] <;> decide
    rw [List.forall_mem_map]
    exact plain
  distinct := by cases call <;> simp [arguments]

theorem goal_eq (call : Filled) :
    call.goal = (call.envelope.asking
      (writeElement call.writtenTag.name call.writtenTag.attrs [])).goal := by
  cases call <;> rfl

/-- What is read of a call's request, whatever its arguments are: one element in the root, with
nothing in it, whose attributes are the ones of the call, in their order and with the values that
were given. -/
theorem arguments_read_back (call : Filled) :
    ∃ path body root tag close, call.goal = .post path body ∧ checkWellFormed body = .ok () ∧
      read body = ⟨[.startTag root, .emptyTag tag, .endTag close], true⟩ ∧
      topNodes body = [.element root [.element tag [] true] true] ∧
      tagName root = utf8 "ajax-request" ∧ tagName tag = utf8 call.name ∧
      (tagAttributes tag).sound = true ∧
      List.Forall₂ (fun attr given => attr.name = utf8 given.1 ∧
          ∃ text, attr.text? = some text ∧ given.2.Spells text)
        (tagAttributes tag).all call.arguments := by
  let element := call.writtenTag
  obtain ⟨check, reads, nodes⟩ := call.envelope.read_asking element
  refine ⟨_, _, _, _, _, call.goal_eq, check, reads, nodes, tagName_writeTag (by decide),
    tagName_writeTag element.named, ?_, ?_⟩
  · rw [element.tagAttributes_body]
  · have texts : (tagAttributes element.body).all.map (fun attr => (attr.name, attr.text?)) =
        call.arguments.map fun given => (utf8 given.1, some given.2.write) :=
      element.texts_body.trans List.map_map
    rw [← List.forall₂_eq_eq_eq, List.forall₂_map_left_iff, List.forall₂_map_right_iff] at texts
    refine texts.imp fun attr given same => ?_
    obtain ⟨name, text⟩ := Prod.mk.inj same
    exact ⟨name, _, text, given.2.spells_write⟩

/-- Nothing is done to a single quote, which ends no value. -/
example : Station.writeQuery (some "it's <\"&amp;\">\n") = utf8
    "<client wlan=\"it's &lt;&quot;&amp;amp;&quot;&gt;\n\" USE_REGEX=\"false\"/>" := by
  decide +kernel

theorem writtenTag_body_inj {call other : Filled} (same : call.goal = other.goal) :
    call.writtenTag.body = other.writtenTag.body := by
  rw [call.goal_eq, other.goal_eq] at same
  obtain ⟨-, bodies⟩ := Goal.post.inj same
  have first := (call.envelope.read_asking call.writtenTag).2.1
  have second := (other.envelope.read_asking other.writtenTag).2.1
  -- one document has one element below its root
  rw [bodies] at first
  injection first.symm.trans second with lexemes
  injection lexemes with _ lexemes
  injection lexemes with tags
  exact Lexeme.emptyTag.inj tags

/-- No two calls send the same, so none can be made to look like another one. -/
theorem goal_injective : Function.Injective goal := by
  intro call other same
  have attrs : call.writtenTag.attrs = other.writtenTag.attrs :=
    WrittenTag.attrs_inj (writtenTag_body_inj same)
  cases call with
  | rename station name =>
    cases other <;> simp [writtenTag, arguments, Argument.write] at attrs
    obtain ⟨stations, rfl⟩ := attrs
    rw [HardwareAddress.codec_lawful.inj stations]
  | setFavourite station on =>
    cases other <;> simp [writtenTag, arguments, Argument.write] at attrs
    obtain ⟨flags, stations⟩ := attrs
    rw [Codec.bit_lawful.inj flags, HardwareAddress.codec_lawful.inj stations]
  | setLegacy station on =>
    cases other <;> simp [writtenTag, arguments, Argument.write] at attrs
    obtain ⟨flags, stations⟩ := attrs
    rw [Codec.bit_lawful.inj flags, HardwareAddress.codec_lawful.inj stations]
  | listByWlan wlan =>
    cases other <;> simp [writtenTag, arguments, Argument.write] at attrs
    rw [attrs]
  | delete id =>
    cases other <;> simp [writtenTag, arguments, Argument.write] at attrs
    rw [Argument.number_inj attrs]

end Filled
end WlanAdmin
