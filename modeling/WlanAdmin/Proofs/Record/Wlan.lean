import WlanAdmin.Client.Resources
import WlanAdmin.Proofs.Field.Schedule
import WlanAdmin.Proofs.Record.Payload

/-!
# WlanAdmin.Proofs.Record.Wlan

WLAN records survive the wire: whatever their texts hold, a response around written records is read
as these records.

* `transfer_fields`, `read_element` : for each type of record, its attributes and its element.
* `readChildren_element` : the child elements of a record.
* `readChildren_list`    : the records of a list, in order.
* `wire_roundTrip`       : lists, and the records that are sent to create and to update a WLAN.
-/

namespace WlanAdmin

open Xml RecordField

namespace WlanWpa

theorem fieldNames : FieldNames fields := ⟨by decide +kernel, by decide +kernel⟩

theorem transfer_fields (wpa : WlanWpa) :
    fields.foldlM (fun target field => field.transfer wpa target) {} = .ok wpa := by
  simp only [fields, List.foldlM_cons, List.foldlM_nil, transfer_text,
    transfer_coded Codec.enabled_lawful]
  rfl

def tag (wpa : WlanWpa) : WrittenTag := recordTag "wpa" (by decide +kernel) fieldNames wpa

theorem read_element (wpa : WlanWpa) : shape.read ⟨wpa.tag.body, [], true⟩ = .ok wpa := by
  exact Shape.read_written shape "wpa" (by decide +kernel) fieldNames wpa (transfer_fields wpa) []

end WlanWpa

namespace WlanQos

theorem fieldNames : FieldNames fields := ⟨by decide +kernel, by decide +kernel⟩

theorem transfer_fields (qos : WlanQos) :
    fields.foldlM (fun target field => field.transfer qos target) {} = .ok qos := by
  simp only [fields, List.foldlM_cons, List.foldlM_nil, transfer_text, transfer_count32]
  rfl

def tag (qos : WlanQos) : WrittenTag := recordTag "qos" (by decide +kernel) fieldNames qos

theorem read_element (qos : WlanQos) : shape.read ⟨qos.tag.body, [], true⟩ = .ok qos := by
  exact Shape.read_written shape "qos" (by decide +kernel) fieldNames qos (transfer_fields qos) []

end WlanQos

namespace QueuePriority

theorem fieldNames : FieldNames QueueNumbers.fields := ⟨by decide +kernel, by decide +kernel⟩

theorem transfer_fields (numbers : QueueNumbers) :
    QueueNumbers.fields.foldlM (fun target field => field.transfer numbers.toPartial target) {} =
      .ok numbers.toPartial := by
  simp only [QueueNumbers.fields, List.foldlM_cons, List.foldlM_nil, transfer_signed32]
  rfl

def tag (priority : QueuePriority) : WrittenTag :=
  recordTag "queue-priority" (by decide +kernel) fieldNames priority.numbers.toPartial

theorem read_element (priority : QueuePriority) :
    shape.read ⟨priority.tag.body, [], true⟩ = .ok priority := by
  refine (Shape.read_written shape "queue-priority" (by decide +kernel) fieldNames _
    (transfer_fields priority.numbers) []).trans ?_
  have hclass : ofNumbers ⟨priority.numbers.voice, priority.numbers.video, priority.numbers.data,
      priority.numbers.background⟩ = .ok priority := ofNumbers_numbers priority
  show shape.finish priority.numbers.toPartial = _
  simp only [shape, QueueNumbers.Partial.finish, QueueNumbers.toPartial, bind, Except.bind, hclass]

end QueuePriority

namespace Schedule

theorem fieldNames : FieldNames fields := ⟨by decide +kernel, by decide +kernel⟩

theorem transfer_fields (schedule : Schedule) :
    fields.foldlM (fun target field => field.transfer (some schedule.write) target) none =
      .ok (some schedule.write) := by
  simp only [fields, List.foldlM_cons, List.foldlM_nil, transfer_text]
  rfl

def tag (schedule : Schedule) : WrittenTag :=
  recordTag "wlan-schedule" (by decide +kernel) fieldNames (some schedule.write)

theorem read_element (schedule : Schedule) :
    shape.read ⟨schedule.tag.body, [], true⟩ = .ok schedule := by
  refine (Shape.read_written shape "wlan-schedule" (by decide +kernel) fieldNames _
    (transfer_fields schedule) []).trans ?_
  have hread : Schedule.read schedule.write = .ok schedule := codec_lawful schedule
  show shape.finish (some schedule.write) = _
  simp only [shape, hread]

end Schedule

namespace Wlan

theorem fieldNames : FieldNames fields := ⟨by decide +kernel, by decide +kernel⟩

/-- The attributes of a record carry all that its child elements do not. -/
theorem transfer_fields (wlan : Wlan) :
    fields.foldlM (fun target field => field.transfer wlan target) {} =
      .ok { wlan with wpa := none, queuePriority := .high, qos := {}, schedule := .off } := by
  simp only [fields, List.foldlM_cons, List.foldlM_nil, transfer_text, transfer_count32,
    transfer_boolean, transfer_optionalCount32, transfer_coded Codec.enabled_lawful,
    transfer_coded Codec.bit_lawful, transfer_coded Authentication.codec_lawful,
    transfer_coded Encryption.codec_lawful, transfer_coded Enablement.codec_lawful]
  cases wlan.id <;> rfl

/-- The element of the passphrases, if there are any. -/
def wpaElements : Option WlanWpa → Elements
  | some wpa => .written wpa.tag .nil
  | none => .nil

/-- The child elements of a record. -/
def childElements (wlan : Wlan) : Elements :=
  (((wpaElements wlan.wpa).append (.written wlan.queuePriority.tag .nil)).append
    (.written wlan.qos.tag .nil)).append (.written wlan.schedule.tag .nil)

theorem octets_childElements (wlan : Wlan) : wlan.childElements.octets = wlan.writeChildren := by
  have hwpa : (wpaElements wlan.wpa).octets = match wlan.wpa with
      | some wpa => wpa.write "wpa"
      | none => [] := by
    cases wlan.wpa with
    | none => rfl
    | some wpa => exact Elements.octets_written wpa.tag .nil
  show (((_ ++ _) ++ _) ++ _ : Bytes) = _
  rw [hwpa, Elements.octets_written, Elements.octets_written, Elements.octets_written]
  rfl

/-- The three children that every record has. -/
def lastChildren (wlan : Wlan) : List Node :=
  [.element wlan.queuePriority.tag.body [] true, .element wlan.qos.tag.body [] true,
    .element wlan.schedule.tag.body [] true]

theorem nodes_childElements (wlan : Wlan) :
    wlan.childElements.nodes = (wpaElements wlan.wpa).nodes ++ wlan.lastChildren := by
  show (((_ ++ _) ++ _) ++ _ : List Node) = _
  rw [Elements.nodes_written, Elements.nodes_written, Elements.nodes_written]
  simp [Elements.nil, lastChildren]

theorem readChildren_last (wlan record : Wlan) {seen : List String}
    (fresh : ∀ name ∈ ["queue-priority", "qos", "wlan-schedule"], name ∉ seen) :
    Shape.readChildren children seen none wlan.lastChildren record =
      .ok { record with
        queuePriority := wlan.queuePriority, qos := wlan.qos, schedule := wlan.schedule } := by
  have hpriority := fresh "queue-priority" (by simp)
  have hqos : "qos" ∉ "queue-priority" :: seen := by simp [fresh]
  have hschedule : "wlan-schedule" ∉ "qos" :: "queue-priority" :: seen := by simp [fresh]
  rw [lastChildren,
    Shape.readChildren_single "queue-priority" rfl hpriority
      (by rw [wlan.queuePriority.read_element]; rfl),
    Shape.readChildren_single "qos" rfl hqos (by rw [wlan.qos.read_element]; rfl),
    Shape.readChildren_single "wlan-schedule" rfl hschedule
      (by rw [wlan.schedule.read_element]; rfl)]
  rfl

/-- The child elements complete the record that the attributes began. -/
theorem readChildren_element (wlan : Wlan) :
    Shape.readChildren children [] none wlan.childElements.nodes
        { wlan with wpa := none, queuePriority := .high, qos := {}, schedule := .off } =
      .ok wlan := by
  rw [nodes_childElements]
  cases hwpa : wlan.wpa with
  | none =>
    refine (readChildren_last wlan _ (by simp)).trans ?_
    rw [← hwpa]
  | some wpa =>
    rw [wpaElements, Elements.nodes_written, List.singleton_append,
      Shape.readChildren_single "wpa" rfl (by simp) (by
        rw [show Elements.nil.nodes = [] from rfl, wpa.read_element]; rfl)]
    refine (readChildren_last wlan _ (by decide)).trans ?_
    rw [← hwpa]

def tag (wlan : Wlan) : WrittenTag := recordTag "wlansvc" (by decide +kernel) fieldNames wlan

/-- The element of a record. -/
def element (wlan : Wlan) : Elements := .written wlan.tag wlan.childElements

theorem octets_element (wlan : Wlan) : wlan.element.octets = wlan.write := by
  rw [element, Elements.octets_written, octets_childElements]
  rfl

theorem nodes_element (wlan : Wlan) :
    wlan.element.nodes = [.element wlan.tag.body wlan.childElements.nodes true] :=
  Elements.nodes_written wlan.tag wlan.childElements

theorem read_element (wlan : Wlan) :
    shape.read ⟨wlan.tag.body, wlan.childElements.nodes, true⟩ = .ok wlan := by
  refine (Shape.read_written shape "wlansvc" (by decide +kernel) fieldNames wlan
    (transfer_fields wlan) wlan.childElements.nodes).trans ?_
  show Shape.readChildren children [] none wlan.childElements.nodes _ >>= .ok = _
  rw [readChildren_element]
  rfl

/-! ## Lists -/

/-- The element of a list of records. -/
def writeList (wlans : List Wlan) : Bytes :=
  utf8 "<wlansvc-list>" ++ wlans.flatMap write ++ utf8 "</wlansvc-list>"

theorem listNames : FieldNames listShape.fields := ⟨by decide, by decide⟩

def listTag : WrittenTag := recordTag "wlansvc-list" (by decide +kernel) listNames []

def listElement (wlans : List Wlan) : Elements := .enclosed listTag (.flatMap element wlans)

theorem octets_listElement (wlans : List Wlan) : (listElement wlans).octets = writeList wlans := by
  show _ ++ ((Elements.flatMap element wlans).octets ++ _) = _
  rw [Elements.octets_flatMap, writeList, List.append_assoc]
  simp only [octets_element]
  rfl

/-- The records of a list are read in order, each behind those that were read before. -/
theorem readChildren_list (wlans before : List Wlan) (seen : List String) (list : Option Bytes)
    (unbroken : "wlansvc" ∈ seen → list = some (utf8 "wlansvc")) :
    Shape.readChildren listShape.children seen list (wlans.flatMap fun wlan => wlan.element.nodes)
        before = .ok (before ++ wlans) := by
  induction wlans generalizing before seen list with
  | nil => simp [Shape.readChildren]
  | cons wlan wlans ih =>
    rw [List.flatMap_cons, nodes_element, List.singleton_append,
      Shape.readChildren_listed "wlansvc" rfl unbroken
        (by rw [wlan.read_element]; rfl)]
    refine (ih (before ++ [wlan]) _ _ fun _ => rfl).trans ?_
    rw [List.append_assoc, List.singleton_append]

theorem read_listElement (wlans : List Wlan) :
    listShape.read ⟨listTag.body, (Elements.flatMap element wlans).nodes, true⟩ = .ok wlans := by
  refine (Shape.read_written listShape "wlansvc-list" (by decide +kernel) listNames
    [] rfl _).trans ?_
  rw [Elements.nodes_flatMap, show listShape.start = [] from rfl,
    readChildren_list wlans [] [] none nofun]
  rfl

/-! ## The whole way -/

variable (frame : ResponseFrame) (tags : TagPair)

/-- A response that holds the element of a record is read as the record. -/
theorem interpret_element (named : localName (tagName tags.tag) = utf8 "response")
    (legible : Legible tags.tag) (request : RequestEnvelope) (wlan : Wlan) :
    (Call.confOf (Payload.decode shape) request).interpret
      (frame.around (tags.around wlan.write)) = .ok wlan := by
  have herror := errorTag?_elements wlan.element wlan.tag
    (Elements.tags_written wlan.tag wlan.childElements)
    (show wlan.tag.name ≠ "xmsg" by simp [tag, recordTag])
  rw [← octets_element, Call.confOf_elements _ request frame tags named legible wlan.element herror,
    Call.decoding, Payload.decode_elements shape wlan.element wlan.nodes_element, wlan.read_element]

/-- What a list of records says is what was put into it, and so is what the records say that are
sent to update and to create a WLAN. -/
theorem wire_roundTrip (named : localName (tagName tags.tag) = utf8 "response")
    (legible : Legible tags.tag) :
    (∀ wlans, listCall.interpret (frame.around (tags.around (writeList wlans))) = .ok wlans) ∧
    (∀ wlan, ∃ request, updateCall wlan = .confDone request ∧
      (Call.confOf (Payload.decode shape) request).interpret
        (frame.around (tags.around request.payload)) = .ok wlan) ∧
    ∀ wlan, ∃ request, createCall wlan = .confOf (Payload.decode shape) request ∧
      (createCall wlan).interpret (frame.around (tags.around request.payload)) =
        .ok { wlan with id := none } := by
  refine ⟨fun wlans => ?_, fun wlan => ⟨_, rfl, ?_⟩, fun wlan => ⟨_, rfl, ?_⟩⟩
  · have herror : ResponseEnvelope.errorTag? (listElement wlans).toFragment = none :=
      errorTag?_elements (listElement wlans) listTag rfl (by simp [listTag, recordTag])
    rw [listCall, ← octets_listElement,
      Call.confOf_elements _ _ frame tags named legible (listElement wlans) herror, Call.decoding,
      Payload.decode_elements listShape (listElement wlans) rfl, read_listElement]
  · exact interpret_element frame tags named legible _ wlan
  · exact interpret_element frame tags named legible _ { wlan with id := none }

/-- A response with nothing but its root around the element of interest. -/
def bareFrame : ResponseFrame where
  prolog := .blank
  root := WrittenTag.pair ⟨"ajax-response", [], by decide +kernel, by simp, .nil⟩
  before := .blank
  after := .blank
  tail := .blank
  rootNamed := by decide +kernel
  others _ h := absurd h List.not_mem_nil
  undeclared _ h := absurd h List.not_mem_nil

/-- The tags of an element that gives its type. -/
def typedTags : TagPair :=
  WrittenTag.pair ⟨"response", [("type", "object")], by decide +kernel, by decide +kernel, by simp⟩

theorem wire_roundTrip_markup :
    localName (tagName typedTags.tag) = utf8 "response" ∧ Legible typedTags.tag ∧
      listCall.interpret
        (bareFrame.around (typedTags.around
          (writeList [named "a\"<b>&amp;\n", named "</wlansvc>"]))) =
          .ok [named "a\"<b>&amp;\n", named "</wlansvc>"] := by
  have hnamed : localName (tagName typedTags.tag) = utf8 "response" := by decide +kernel
  have hlegible : Legible typedTags.tag := by decide +kernel
  exact ⟨hnamed, hlegible, (wire_roundTrip bareFrame typedTags hnamed hlegible).1 _⟩

end Wlan
end WlanAdmin
