import WlanAdmin.Proofs.Record.Coded
import WlanAdmin.Proofs.Record.Wlan
import WlanAdmin.Proofs.Text.Decimal

/-!
# WlanAdmin.Proofs.Record.Priority

Which elements are priorities: those with four attributes that spell the queue numbers of a class.
None of the four may be absent, or occur twice.

* `Shape.own`, `Shape.Fills` : the attributes of a name, and what they make of a slot in a record.
* `Slots.fills`, `Slots.exists_read` : what is read of attributes, slot by slot.
* `readChildren_passed` : where no child is looked for, each must be one that can be skipped.
* `QueueNumbers.Lists` : the elements that list four numbers.
* `QueuePriority.FollowsNumbers` : a priority is read from its numbers, and these from attributes.
-/

namespace WlanAdmin

open Xml

namespace Shape

/-! ## Slots -/

/-- The attributes of a name. -/
def own (name : String) (attrs : List Attribute) : List Attribute :=
  attrs.filter fun attr => attributeKey attr.name = utf8 name

theorem own_cons_of_eq {name : String} {attr : Attribute} (attrs : List Attribute)
    (named : attributeKey attr.name = utf8 name) :
    own name (attr :: attrs) = attr :: own name attrs :=
  List.filter_cons_of_pos (decide_eq_true named)

theorem own_cons_of_ne {name : String} {attr : Attribute} (attrs : List Attribute)
    (other : attributeKey attr.name ≠ utf8 name) : own name (attr :: attrs) = own name attrs :=
  List.filter_cons_of_neg (by simpa using other)

section

variable {P α : Type}

/-- What the attributes of a name make of a slot: it stays as it is where there is none, and one
that spells a value sets it. -/
inductive Fills (spelled : String → Option α) : List Attribute → (before after : Option α) → Prop
    where
  | absent {before : Option α} : Fills spelled [] before before
  | told {attr : Attribute} {text : String} {value : α} {before : Option α} :
      FieldKind.number.take attr.value = some text → spelled text = some value →
      Fills spelled [attr] before (some value)

/-- Fields for numbers, each of which sets a slot of its own in a record. -/
structure Slots (fields : List (RecordField P)) (spelled : String → Option α)
    (slot : String → P → Option α) : Prop where
  number : ∀ field ∈ fields, field.kind = .number
  filled : ∀ field ∈ fields, ∀ text record value, spelled text = some value →
    ∃ next, field.read text record = .ok next ∧ slot field.name next = some value ∧
      ∀ name ≠ field.name, slot name next = slot name record
  refused : ∀ field ∈ fields, ∀ text record, spelled text = none →
    ∃ error, field.read text record = .error error

theorem Fills.unique {spelled : String → Option α} {own : List Attribute}
    {before after other : Option α} (h : Fills spelled own before after)
    (h' : Fills spelled own before other) : after = other := by
  cases h with
  | absent =>
    cases h'
    rfl
  | told taken spells =>
    cases h' with
    | told taken' spells' =>
      cases taken.symm.trans taken'
      exact spells.symm.trans spells'

variable {fields : List (RecordField P)} {spelled : String → Option α}
  {slot : String → P → Option α} {field other : RecordField P} {attr : Attribute}
  {attrs : List Attribute} {seen : List String} {record result : P}

/-- What is read of attributes, slot by slot. The induction is on the attributes: the first is for
one field at most, and all later ones are for others. -/
theorem Slots.fills (slots : Slots fields spelled slot)
    (read : readFields fields seen attrs record = .ok result) (mem : field ∈ fields) :
    Fills spelled (own field.name attrs) (slot field.name record) (slot field.name result) ∧
      (field.name ∈ seen → own field.name attrs = []) := by
  induction attrs generalizing seen record with
  | nil =>
    cases read
    exact ⟨.absent, fun _ => rfl⟩
  | cons attr attrs ih =>
    obtain ⟨unknown, later⟩ | ⟨first, text, next, known, fresh, taken, done, later⟩ :=
      readFields_cons_ok read
    · rw [own_cons_of_ne attrs (key_ne_of_unknown unknown field mem)]
      exact ih later
    · obtain ⟨rest, unmet⟩ := ih later
      have named := key_of_known known
      have first_mem := List.mem_of_find?_eq_some known
      obtain ⟨value, spells⟩ : ∃ value, spelled text = some value := by
        cases spells : spelled text with
        | none =>
          obtain ⟨error, refused⟩ := slots.refused first first_mem text record spells
          cases refused.symm.trans done
        | some value => exact ⟨value, rfl⟩
      obtain ⟨_, done', set, kept⟩ := slots.filled first first_mem text record value spells
      cases done'.symm.trans done
      by_cases same : field.name = first.name
      · rw [same] at rest unmet ⊢
        rw [unmet List.mem_cons_self, set] at rest
        rw [own_cons_of_eq attrs named, unmet List.mem_cons_self]
        generalize slot first.name result = after at rest
        cases rest
        exact ⟨.told (slots.number first first_mem ▸ taken) spells, fun met => absurd met fresh⟩
      · rw [own_cons_of_ne attrs fun eq => same (utf8_inj (named.symm.trans eq)).symm, ← kept _ same]
        exact ⟨rest, fun met => unmet (List.mem_cons_of_mem _ met)⟩

/-- Attributes are read if none occurs twice and each spells a value. -/
theorem Slots.exists_read (slots : Slots fields spelled slot)
    (told : ∀ field ∈ fields,
      (∃ after, Fills spelled (own field.name attrs) (slot field.name record) after) ∧
        (field.name ∈ seen → own field.name attrs = [])) :
    ∃ result, readFields fields seen attrs record = .ok result := by
  induction attrs generalizing seen record with
  | nil => exact ⟨record, rfl⟩
  | cons attr attrs ih =>
    cases known : fields.find? fun f => utf8 f.name = attributeKey attr.name with
    | none =>
      rw [readFields_of_unknown known]
      refine ih fun field mem => ?_
      simpa only [own_cons_of_ne attrs (key_ne_of_unknown known field mem)] using told field mem
    | some first =>
      have named := key_of_known known
      have first_mem := List.mem_of_find?_eq_some known
      obtain ⟨⟨after, first_told⟩, unmet⟩ := told first first_mem
      rw [own_cons_of_eq attrs named] at first_told unmet
      have fresh : first.name ∉ seen := fun met => List.cons_ne_nil _ _ (unmet met)
      generalize rest_eq : own first.name attrs = rest at first_told
      cases first_told with
      | told taken spells =>
        obtain ⟨next, done, set, kept⟩ := slots.filled first first_mem _ record _ spells
        rw [← slots.number first first_mem] at taken
        rw [readFields_of_known known fresh taken done]
        refine ih fun field mem => ?_
        by_cases same : field.name = first.name
        · rw [same, rest_eq]
          exact ⟨⟨_, .absent⟩, fun _ => rfl⟩
        · rw [kept _ same]
          have told := told field mem
          rw [own_cons_of_ne attrs fun eq => same (utf8_inj (named.symm.trans eq)).symm] at told
          exact ⟨told.1, fun met => told.2 ((List.mem_cons.mp met).resolve_left same)⟩

end

/-! ## Children that are passed over -/

/-- A node that is passed over where no child is looked for. -/
inductive Passed : Node → Prop where
  | doctype : Passed .doctype
  | text (content : Bytes) : Passed (.text (some content))
  | element {body : Bytes} {children : List Node} {closed : Bool} :
      skip ⟨body, children, closed⟩ = .ok () → Passed (.element body children closed)

theorem readChildren_passed {P : Type} {seen : List String} {list : Option Bytes}
    {nodes : List Node} {record result : P} :
    readChildren [] seen list nodes record = .ok result ↔
      result = record ∧ ∀ node ∈ nodes, Passed node := by
  induction nodes generalizing list with
  | nil => simp [readChildren, eq_comm]
  | cons node nodes ih =>
    rw [List.forall_mem_cons]
    cases node with
    | doctype =>
      rw [readChildren, ih]
      simp [Passed.doctype]
    | text content =>
      cases content with
      | none =>
        rw [readChildren]
        constructor
        · intro h
          cases h
        · intro h
          cases h.2.1
      | some content =>
        rw [readChildren, ih]
        simp [Passed.text]
    | element body children closed =>
      rw [readChildren, List.find?_nil]
      cases skipped : skip ⟨body, children, closed⟩ with
      | error error =>
        constructor
        · intro h
          cases h
        · intro h
          cases h.2.1 with
          | element sound => cases skipped.symm.trans sound
      | ok _ =>
        simp only [ih]
        simp [Passed.element skipped]

end Shape

/-! ## Four numbers -/

namespace QueueNumbers

/-- One attribute of an element has the name, and spells the number, blanks around it aside. -/
def ListsNumber (element : ElementNode) (name : String) (n : Int32) : Prop :=
  ∃ attr text, Shape.own name (tagAttributes element.body).all = [attr] ∧
    FieldKind.number.take attr.value = some text ∧ IsInteger .signed32 text.toList n.toInt

/-- An element lists four numbers, each in an attribute of its own, and nothing in it is unsound. -/
structure Lists (element : ElementNode) (numbers : QueueNumbers) : Prop where
  voice : ListsNumber element "voice" numbers.voice
  video : ListsNumber element "video" numbers.video
  data : ListsNumber element "data" numbers.data
  background : ListsNumber element "background" numbers.background
  sound : (tagAttributes element.body).sound = true
  passed : ∀ node ∈ element.children, Shape.Passed node
  closed : element.closed = true

/-- The number that a text spells. -/
def spelled (text : String) : Option Int32 :=
  (IntegerRange.signed32.read text).toOption.map Int32.ofInt

theorem spelled_iff {text : String} {n : Int32} :
    spelled text = some n ↔ IsInteger .signed32 text.toList n.toInt := by
  rw [← IntegerRange.read_ok_iff, String.ofList_toList, spelled]
  cases read : IntegerRange.signed32.read text with
  | error fault => simp [Except.toOption]
  | ok value =>
    have within : IntegerRange.signed32.Contains value :=
      (IntegerRange.read_ok_iff.mp ((String.ofList_toList (s := text)).symm ▸ read)).contains
    have same : (Int32.ofInt value).toInt = value :=
      Int32.toInt_ofInt_of_le within.1 (Int.lt_add_one_iff.mpr within.2)
    simp only [Except.toOption, Option.map_some, Option.some.injEq, Except.ok.injEq]
    constructor
    · rintro rfl
      exact same.symm
    · rintro rfl
      exact Int32.ofInt_toInt n

/-- The number of a name, if it has been read. -/
def Partial.slot (p : Partial) (name : String) : Option Int32 :=
  if name = "voice" then p.voice else if name = "video" then p.video
  else if name = "data" then p.data else if name = "background" then p.background else none

section

variable {name text : String} {get : Partial → Int32} {set : Int32 → Partial → Partial}

theorem read_of_spelled {n : Int32} (h : spelled text = some n) (p : Partial) :
    (RecordField.signed32 name get set).read text p = .ok (set n p) := by
  simp only [spelled, RecordField.signed32, RecordField.integer] at h ⊢
  cases read : IntegerRange.signed32.read text with
  | error fault =>
    rw [read] at h
    cases h
  | ok value =>
    rw [read] at h
    cases h
    rfl

theorem read_of_unspelled (h : spelled text = none) (p : Partial) :
    (RecordField.signed32 name get set).read text p = .error .mismatch := by
  simp only [spelled, RecordField.signed32, RecordField.integer] at h ⊢
  cases read : IntegerRange.signed32.read text with
  | error fault => rfl
  | ok value =>
    rw [read] at h
    cases h

end

theorem slots : Shape.Slots fields spelled fun name p => p.slot name := by
  constructor
  · simp [fields, RecordField.signed32, RecordField.integer]
  · repeat' refine List.forall_mem_cons.mpr ⟨?_, ?_⟩
    all_goals first
      | exact List.forall_mem_nil _
      | refine fun text p n h => ⟨_, read_of_spelled h p, rfl, fun name ne => ?_⟩
        simp only [RecordField.signed32, RecordField.integer] at ne
        simp [Partial.slot, ne]
  · repeat' refine List.forall_mem_cons.mpr ⟨?_, ?_⟩
    all_goals first
      | exact List.forall_mem_nil _
      | exact fun text p h => ⟨_, read_of_unspelled h p⟩

theorem listsNumber_iff {element : ElementNode} {name : String} {n : Int32} :
    ListsNumber element name n ↔
      Shape.Fills spelled (Shape.own name (tagAttributes element.body).all) none (some n) := by
  constructor
  · rintro ⟨attr, text, one, taken, spells⟩
    rw [one]
    exact .told taken (spelled_iff.mpr spells)
  · intro h
    rw [ListsNumber]
    generalize Shape.own name (tagAttributes element.body).all = own at h
    cases h with
    | told taken spells => exact ⟨_, _, rfl, taken, spelled_iff.mp spells⟩

theorem fills_iff {element : ElementNode} {numbers : QueueNumbers} :
    (∀ field ∈ fields, Shape.Fills spelled
      (Shape.own field.name (tagAttributes element.body).all) (Partial.slot {} field.name)
      (numbers.toPartial.slot field.name)) ↔
      ListsNumber element "voice" numbers.voice ∧ ListsNumber element "video" numbers.video ∧
        ListsNumber element "data" numbers.data ∧
        ListsNumber element "background" numbers.background := by
  simp only [fields, List.forall_mem_cons, listsNumber_iff]
  constructor
  · rintro ⟨voice, video, data, background, -⟩
    exact ⟨voice, video, data, background⟩
  · rintro ⟨voice, video, data, background⟩
    exact ⟨voice, video, data, background, List.forall_mem_nil _⟩

theorem Partial.eq_of_slots {p q : Partial}
    (same : ∀ field ∈ fields, p.slot field.name = q.slot field.name) : p = q := by
  obtain ⟨_, _, _, _⟩ := p
  obtain ⟨_, _, _, _⟩ := q
  simp only [fields, List.forall_mem_cons] at same
  obtain ⟨⟨⟩, ⟨⟩, ⟨⟩, ⟨⟩, -⟩ := same
  rfl

theorem finish_eq_ok_iff {p : Partial} {numbers : QueueNumbers} :
    p.finish = .ok numbers ↔ p = numbers.toPartial := by
  obtain ⟨voice, video, data, background⟩ := p
  constructor
  · intro h
    cases voice <;> cases video <;> cases data <;> cases background <;> cases h
    rfl
  · intro h
    cases h
    rfl

/-- The elements that are read as four numbers. -/
theorem read_ok_iff {element : ElementNode} {numbers : QueueNumbers} :
    shape.read element = .ok numbers ↔ Lists element numbers := by
  rw [Shape.read_ok_iff]
  constructor
  · rintro ⟨sound, closed, gathered, all, done⟩
    obtain ⟨middle, read, nodes⟩ := ResponseEnvelope.bind_eq_ok all
    obtain ⟨rfl, passed⟩ := Shape.readChildren_passed.mp nodes
    obtain rfl := finish_eq_ok_iff.mp done
    obtain ⟨voice, video, data, background⟩ :=
      fills_iff.mp fun field mem => (slots.fills read mem).1
    exact ⟨voice, video, data, background, sound, passed, closed⟩
  · intro listed
    have told := fills_iff.mpr ⟨listed.voice, listed.video, listed.data, listed.background⟩
    obtain ⟨result, read⟩ := slots.exists_read fun field mem =>
      ⟨⟨_, told field mem⟩, fun met => absurd met List.not_mem_nil⟩
    obtain rfl : result = numbers.toPartial := Partial.eq_of_slots fun field mem =>
      (slots.fills read mem).1.unique (told field mem)
    refine ⟨listed.sound, listed.closed, _, ?_, finish_eq_ok_iff.mpr rfl⟩
    rw [Shape.gather, show shape.fields = fields from rfl, show shape.start = {} from rfl, read]
    exact Shape.readChildren_passed.mpr ⟨rfl, listed.passed⟩

end QueueNumbers

namespace QueuePriority

/-- A priority is read from its four numbers, if they are those of a class. Each number is read from
an attribute of its own, and is needed. -/
structure FollowsNumbers : Prop where
  numbers : ∀ element numbers,
    QueueNumbers.shape.read element = .ok numbers ↔ QueueNumbers.Lists element numbers
  needed : ∀ name ∈ ["voice", "video", "data", "background"], ∀ element : ElementNode,
    (∀ attr ∈ (tagAttributes element.body).all, Shape.attributeKey attr.name ≠ utf8 name) →
    ∀ priority, shape.read element ≠ .ok priority
  high : ∀ element, shape.read element = .ok .high ↔
    QueueNumbers.shape.read element = .ok ⟨0, 2, 4, 6⟩
  low : ∀ element, shape.read element = .ok .low ↔
    QueueNumbers.shape.read element = .ok ⟨1, 3, 5, 7⟩
  refused : ∀ element numbers, QueueNumbers.shape.read element = .ok numbers →
    numbers ≠ ⟨0, 2, 4, 6⟩ → numbers ≠ ⟨1, 3, 5, 7⟩ →
    ∃ error : FormatError, shape.read element = .error (.field error) ∧
      (DecodeError.field error).message? = some error.message ∧
      ofNumbers numbers = .error error
  unread : ∀ element error, QueueNumbers.shape.read element = .error error →
    shape.read element = .error error

/-- The class of numbers that were read. -/
def ofRead (numbers : QueueNumbers) : Except DecodeError QueuePriority :=
  match ofNumbers numbers with
  | .ok priority => .ok priority
  | .error error => .error (.field error)

theorem read_eq (element : ElementNode) :
    shape.read element = QueueNumbers.shape.read element >>= ofRead :=
  QueueNumbers.shape.read_bind ofRead element

theorem ofNumbers_eq_ok_iff (numbers : QueueNumbers) (priority : QueuePriority) :
    ofNumbers numbers = .ok priority ↔ numbers = priority.numbers := by
  constructor
  · intro known
    simp only [ofNumbers] at known
    split at known
    · rename_i found
      cases known
      have same := List.find?_some found
      exact (of_decide_eq_true same).symm
    · cases known
  · rintro rfl
    exact ofNumbers_numbers priority

theorem read_eq_ok_iff (element : ElementNode) (priority : QueuePriority) :
    shape.read element = .ok priority ↔
      QueueNumbers.shape.read element = .ok priority.numbers := by
  rw [read_eq]
  cases QueueNumbers.shape.read element with
  | error error => exact ⟨nofun, nofun⟩
  | ok numbers =>
    rw [Except.ok.injEq, ← ofNumbers_eq_ok_iff]
    show ofRead numbers = _ ↔ _
    rw [ofRead]
    cases ofNumbers numbers with
    | error error => exact ⟨nofun, nofun⟩
    | ok other => simp only [Except.ok.injEq]

theorem followsNumbers : FollowsNumbers := by
  constructor
  · exact fun element numbers => QueueNumbers.read_ok_iff
  · intro name mem element absent priority read
    have listed := QueueNumbers.read_ok_iff.mp ((read_eq_ok_iff element priority).mp read)
    have told : ∀ name ∈ ["voice", "video", "data", "background"],
        ∃ n, QueueNumbers.ListsNumber element name n := by
      simp only [List.forall_mem_cons]
      exact ⟨⟨_, listed.voice⟩, ⟨_, listed.video⟩, ⟨_, listed.data⟩, ⟨_, listed.background⟩,
        List.forall_mem_nil _⟩
    obtain ⟨n, attr, text, one, -⟩ := told name mem
    obtain ⟨inside, named⟩ := List.mem_filter.mp (one ▸ List.mem_singleton_self attr)
    exact absent attr inside (of_decide_eq_true named)
  · exact fun element => read_eq_ok_iff element .high
  · exact fun element => read_eq_ok_iff element .low
  · intro element numbers read high low
    cases known : ofNumbers numbers with
    | ok priority =>
      have same := (ofNumbers_eq_ok_iff numbers priority).mp known
      cases priority with
      | high => exact absurd same high
      | low => exact absurd same low
    | error error =>
      refine ⟨error, ?_, rfl, rfl⟩
      rw [read_eq, read]
      show ofRead numbers = _
      rw [ofRead, known]
  · intro element error read
    rw [read_eq, read]
    rfl

end QueuePriority

end WlanAdmin
