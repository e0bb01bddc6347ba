import WlanAdmin.Proofs.Record.Payload

/-!
# WlanAdmin.Proofs.Record.Coded

Attributes whose texts have a codec. Such a text is read as the codec reads it, whatever else the
element says, and sets its own part of the record only.

* `RecordField.Keeps`, `ChildRule.Keeps` : reading a part of an element commutes with a change.
* `readFields_change`, `readChildren_change` : so does reading all of them.
* `gather_unchanged`    : what no attribute sets is as it was at the start.
* `gather_insert`       : one attribute more, and what it does.
* `CodedField`          : a field with its codec, and the part of the record that it sets.
* `FollowsCodec`        : what is read of an element for such a field.
* `CodedField.Apart.follows` : it follows from the field being apart from all others.
-/

namespace WlanAdmin

open Xml

/-! ## Changes that commute with reading -/

/-- It does not matter whether the record is changed before the field is read or after. -/
def RecordField.Keeps {P : Type} (field : RecordField P) (change : P → P) : Prop :=
  ∀ text record, field.read text (change record) = (field.read text record).map change

/-- It does not matter whether the record is changed before the child is read or after. -/
def ChildRule.Keeps {P : Type} (rule : ChildRule P) (change : P → P) : Prop :=
  match rule with
  | .single reader | .listed reader =>
    ∀ element record, reader element (change record) = (reader element record).map change

namespace RecordField

variable {R α : Type} {name : String} {change : R → R}

theorem keeps_text {get : R → String} {set : String → R → R}
    (apart : ∀ v r, set v (change r) = change (set v r)) : (text name get set).Keeps change := by
  intro text record
  exact congrArg Except.ok (apart text record)

theorem keeps_coded {codec : Codec α} {get : R → α} {set : α → R → R}
    (apart : ∀ v r, set v (change r) = change (set v r)) :
    (coded name codec get set).Keeps change := by
  intro text record
  simp only [coded]
  cases codec.read text with
  | error error => rfl
  | ok v => exact congrArg Except.ok (apart v record)

theorem keeps_optionalCoded {codec : Codec α} {get : R → Option α} {set : α → R → R}
    (apart : ∀ v r, set v (change r) = change (set v r)) :
    (optionalCoded name codec get set).Keeps change := by
  intro text record
  simp only [optionalCoded]
  cases codec.read text with
  | error error => rfl
  | ok v => exact congrArg Except.ok (apart v record)

theorem keeps_integer {range : IntegerRange} {get : R → Int} {set : Int → R → R}
    (apart : ∀ v r, set v (change r) = change (set v r)) :
    (integer name range get set).Keeps change := by
  intro text record
  simp only [integer]
  cases range.read text with
  | error error => rfl
  | ok v => exact congrArg Except.ok (apart v record)

theorem keeps_optionalCount32 {get : R → Option UInt32} {set : UInt32 → R → R}
    (apart : ∀ v r, set v (change r) = change (set v r)) :
    (optionalCount32 name get set).Keeps change := by
  intro text record
  simp only [optionalCount32]
  cases IntegerRange.unsigned32.read text with
  | error error => rfl
  | ok n => exact congrArg Except.ok (apart (UInt32.ofNat n.toNat) record)

theorem keeps_boolean {get : R → Bool} {set : Bool → R → R}
    (apart : ∀ v r, set v (change r) = change (set v r)) : (boolean name get set).Keeps change := by
  intro text record
  simp only [boolean, apart]
  split
  · rfl
  · split <;> rfl

end RecordField

/-- A child that sets a part of the record to what is read of it. -/
theorem ChildRule.keeps_single {R α : Type} {change : R → R}
    {read : ElementNode → Except DecodeError α} {set : α → R → R}
    (apart : ∀ v r, set v (change r) = change (set v r)) :
    (ChildRule.single fun element r => do return set (← read element) r).Keeps change := by
  intro element record
  cases done : read element with
  | error error => simp only [done, bind, Except.bind, Except.map]
  | ok v =>
    simp only [done, bind, Except.bind, pure, Except.pure]
    exact congrArg Except.ok (apart v record)

namespace Shape

variable {P R : Type} {change : P → P}

section

variable {fields : List (RecordField P)} {attr : Attribute} {attrs : List Attribute}
  {field : RecordField P} {seen : List String} {record result : P}

theorem key_of_known
    (known : fields.find? (fun f => utf8 f.name = attributeKey attr.name) = some field) :
    attributeKey attr.name = utf8 field.name := by
  have key := List.find?_some known
  exact (of_decide_eq_true key).symm

theorem key_ne_of_unknown
    (unknown : fields.find? (fun f => utf8 f.name = attributeKey attr.name) = none) :
    ∀ field ∈ fields, attributeKey attr.name ≠ utf8 field.name := by
  intro field mem named
  exact List.find?_eq_none.mp unknown field mem (decide_eq_true named.symm)

theorem name_ne {name : String}
    (known : fields.find? (fun f => utf8 f.name = attributeKey attr.name) = some field)
    (other : attributeKey attr.name ≠ utf8 name) : field.name ≠ name :=
  fun same => other (same ▸ key_of_known known)

theorem readFields_of_unknown
    (unknown : fields.find? (fun f => utf8 f.name = attributeKey attr.name) = none) :
    readFields fields seen (attr :: attrs) record = readFields fields seen attrs record := by
  rw [readFields, unknown]

theorem readFields_of_known {text : String} {next : P}
    (known : fields.find? (fun f => utf8 f.name = attributeKey attr.name) = some field)
    (fresh : field.name ∉ seen) (taken : field.kind.take attr.value = some text)
    (done : field.read text record = .ok next) :
    readFields fields seen (attr :: attrs) record =
      readFields fields (field.name :: seen) attrs next := by
  rw [readFields, known]
  simp only [if_neg fresh, taken, done]

/-- An attribute that is read is for no field, or for one that was not met before it. -/
theorem readFields_cons_ok (h : readFields fields seen (attr :: attrs) record = .ok result) :
    fields.find? (fun f => utf8 f.name = attributeKey attr.name) = none ∧
        readFields fields seen attrs record = .ok result ∨
      ∃ field text next, fields.find? (fun f => utf8 f.name = attributeKey attr.name) = some field ∧
        field.name ∉ seen ∧ field.kind.take attr.value = some text ∧
        field.read text record = .ok next ∧
        readFields fields (field.name :: seen) attrs next = .ok result := by
  rw [readFields] at h
  cases known : fields.find? fun f => utf8 f.name = attributeKey attr.name with
  | none =>
    rw [known] at h
    exact .inl ⟨rfl, h⟩
  | some field =>
    rw [known] at h
    simp only at h
    by_cases met : field.name ∈ seen
    · rw [if_pos met] at h
      cases h
    · rw [if_neg met] at h
      cases taken : field.kind.take attr.value with
      | none =>
        rw [taken] at h
        cases h
      | some text =>
        rw [taken] at h
        simp only at h
        cases done : field.read text record with
        | error error =>
          rw [done] at h
          cases h
        | ok next =>
          rw [done] at h
          exact .inr ⟨field, text, next, rfl, met, taken, done, h⟩

end

/-- Attributes of other names are read as they were before a change. The names met before may differ
in the one that the change is for. -/
theorem readFields_change {fields : List (RecordField P)} {name : String}
    (keeps : ∀ field ∈ fields, field.name ≠ name → field.Keeps change) {attrs : List Attribute}
    (others : ∀ attr ∈ attrs, attributeKey attr.name ≠ utf8 name) {seen seen' : List String}
    (same : ∀ n, n ≠ name → (n ∈ seen ↔ n ∈ seen')) (record : P) :
    readFields fields seen attrs (change record) =
      (readFields fields seen' attrs record).map change := by
  induction attrs generalizing seen seen' record with
  | nil => rfl
  | cons attr attrs ih =>
    have ih := @ih fun attr mem => others attr (List.mem_cons_of_mem _ mem)
    rw [readFields, readFields]
    cases known : fields.find? fun field => utf8 field.name = attributeKey attr.name with
    | none => exact ih same record
    | some field =>
      have apart := name_ne known (others attr List.mem_cons_self)
      simp only
      by_cases met : field.name ∈ seen
      · rw [if_pos met, if_pos ((same _ apart).mp met)]
        rfl
      · rw [if_neg met, if_neg (mt (same _ apart).mpr met)]
        cases field.kind.take attr.value with
        | none => rfl
        | some text =>
          simp only [keeps field (List.mem_of_find?_eq_some known) apart text record]
          cases field.read text record with
          | error error => rfl
          | ok record =>
            refine ih (fun n ne => ?_) record
            rw [List.mem_cons, List.mem_cons, same n ne]

theorem readChildren_change {rules : List (String × ChildRule P)}
    (keeps : ∀ rule ∈ rules, rule.2.Keeps change) (nodes : List Node) (seen : List String)
    (list : Option Bytes) (record : P) :
    readChildren rules seen list nodes (change record) =
      (readChildren rules seen list nodes record).map change := by
  induction nodes generalizing seen list record with
  | nil => simp only [readChildren, Except.map]
  | cons node nodes ih =>
    cases node with
    | doctype => simp only [readChildren, ih]
    | text content =>
      cases content with
      | none => simp only [readChildren, Except.map]
      | some content => simp only [readChildren, ih]
    | element body children closed =>
      simp only [readChildren]
      cases known : rules.find? fun rule => utf8 rule.1 = localName (tagName body) with
      | none =>
        simp only
        cases skip ⟨body, children, closed⟩ with
        | error error => rfl
        | ok => exact ih seen none record
      | some rule =>
        obtain ⟨name, rule⟩ := rule
        have keep := keeps _ (List.mem_of_find?_eq_some known)
        rcases rule with reader | reader
        all_goals
          simp only
          split
          · rfl
          · rw [keep ⟨body, children, closed⟩ record]
            cases reader ⟨body, children, closed⟩ record with
            | error error => rfl
            | ok record => exact ih _ _ record

/-- An element is read if all its attributes and nodes are, and nothing is wrong with its tags. -/
theorem read_ok_iff {shape : Shape P R} {element : ElementNode} {record : R} :
    shape.read element = .ok record ↔
      (tagAttributes element.body).sound = true ∧ element.closed = true ∧
        ∃ gathered, shape.gather (tagAttributes element.body).all element.children = .ok gathered ∧
          shape.finish gathered = .ok record := by
  constructor
  · intro h
    obtain ⟨middle, fields, h⟩ := ResponseEnvelope.bind_eq_ok h
    cases sound : (tagAttributes element.body).sound with
    | false =>
      rw [sound] at h
      cases h
    | true =>
      rw [sound] at h
      obtain ⟨gathered, nodes, h⟩ := ResponseEnvelope.bind_eq_ok h
      cases closed : element.closed with
      | false =>
        rw [closed] at h
        cases h
      | true =>
        rw [closed] at h
        refine ⟨rfl, rfl, gathered, ?_, h⟩
        rw [gather, fields]
        exact nodes
  · obtain ⟨body, children, closed⟩ := element
    rintro ⟨sound, rfl, gathered, all, done⟩
    rw [read_sound shape sound, all]
    exact done

/-- What is done with a value that is read may as well be done at the end of reading it. -/
theorem read_bind {S : Type} (shape : Shape P R) (next : R → Except DecodeError S)
    (element : ElementNode) :
    (Shape.mk shape.start shape.fields shape.children fun p => shape.finish p >>= next).read element =
      shape.read element >>= next := by
  simp only [read, bind, Except.bind]
  cases readFields shape.fields [] (tagAttributes element.body).all shape.start with
  | error error => rfl
  | ok record =>
    simp only
    split
    · rfl
    · cases readChildren shape.children [] none element.children record with
      | error error => rfl
      | ok record =>
        simp only
        split <;> rfl

/-- What is left as it is by a change at the start is left so in the end. -/
theorem gather_unchanged (shape : Shape P R) {name : String}
    (keeps : ∀ field ∈ shape.fields, field.name ≠ name → field.Keeps change)
    (keepsChildren : ∀ rule ∈ shape.children, rule.2.Keeps change) {attrs : List Attribute}
    (others : ∀ attr ∈ attrs, attributeKey attr.name ≠ utf8 name) {children : List Node}
    {record : P} (start : change shape.start = shape.start)
    (gathered : shape.gather attrs children = .ok record) : change record = record := by
  obtain ⟨middle, fields, nodes⟩ := ResponseEnvelope.bind_eq_ok gathered
  have changed : readFields shape.fields [] attrs (change shape.start) = _ :=
    readFields_change keeps others (fun _ _ => Iff.rfl) shape.start
  rw [start, fields] at changed
  have changedNodes := readChildren_change keepsChildren children [] none middle
  rw [← Except.ok.inj changed, nodes] at changedNodes
  exact (Except.ok.inj changedNodes).symm

/-! ## One attribute more -/

/-- What an attribute does to a record, or why it is refused. Reading all else commutes with what it
does. -/
structure Effect (shape : Shape P R) (name : String) (attr : Attribute)
    (act : Except DecodeError (P → P)) where
  field : RecordField P
  text : String
  named : field.name = name
  known : shape.fields.find? (fun field => utf8 field.name = attributeKey attr.name) = some field
  taken : field.kind.take attr.value = some text
  acts : ∀ record, field.read text record = act.map (· record)
  keeps : ∀ change, act = .ok change →
    ∀ other ∈ shape.fields, other.name ≠ name → other.Keeps change
  keepsChildren : ∀ change, act = .ok change → ∀ rule ∈ shape.children, rule.2.Keeps change

variable {shape : Shape P R} {name : String} {attr : Attribute} {act : Except DecodeError (P → P)}
  {before after : List Attribute}

theorem readFields_insert (effect : Effect shape name attr act)
    (others : ∀ other ∈ before ++ after, attributeKey other.name ≠ utf8 name) {seen : List String}
    (fresh : name ∉ seen) {record rest : P}
    (read : readFields shape.fields seen (before ++ after) record = .ok rest) :
    readFields shape.fields seen (before ++ attr :: after) record = act.map (· rest) := by
  -- what comes before is read with the attribute as without it; what comes after commutes with it
  induction before generalizing seen record with
  | nil =>
    rw [List.nil_append] at read others
    rw [List.nil_append, readFields, effect.known]
    simp only [effect.named, if_neg fresh, effect.taken, effect.acts]
    cases done : act with
    | error error => rfl
    | ok change =>
      have same : ∀ n, n ≠ name → (n ∈ name :: seen ↔ n ∈ seen) := by
        intro n ne
        rw [List.mem_cons, or_iff_right ne]
      have changed := readFields_change (effect.keeps change done) others same record
      rw [read] at changed
      exact changed
  | cons first before ih =>
    have ih := @ih fun attr mem => others attr (List.mem_cons_of_mem _ mem)
    rw [List.cons_append] at read ⊢
    obtain ⟨unknown, later⟩ | ⟨field, text, next, known, unmet, taken, done, later⟩ :=
      readFields_cons_ok read
    · rw [readFields_of_unknown unknown]
      exact ih fresh later
    · rw [readFields_of_known known unmet taken done]
      refine ih (fun mem => ?_) later
      rcases List.mem_cons.mp mem with same | mem
      · exact name_ne known (others first List.mem_cons_self) same.symm
      · exact fresh mem

/-- One attribute more does what it does by itself to what all others say. -/
theorem gather_insert (effect : Effect shape name attr act)
    (others : ∀ other ∈ before ++ after, attributeKey other.name ≠ utf8 name)
    {children : List Node} {rest : P} (gathered : shape.gather (before ++ after) children = .ok rest) :
    shape.gather (before ++ attr :: after) children = act.map (· rest) := by
  obtain ⟨middle, fields, nodes⟩ := ResponseEnvelope.bind_eq_ok gathered
  rw [gather, readFields_insert effect others List.not_mem_nil fields]
  cases done : act with
  | error error => rfl
  | ok change =>
    refine (readChildren_change (effect.keepsChildren change done) children [] none middle).trans ?_
    rw [nodes]
    rfl

end Shape

/-- An element with one attribute of some name. -/
structure AttributedElement (name : String) where
  body : Bytes
  children : List Node
  before : List Attribute
  attr : Attribute
  after : List Attribute
  attributes : (tagAttributes body).all = before ++ attr :: after
  sound : (tagAttributes body).sound = true
  named : Shape.attributeKey attr.name = utf8 name
  others : ∀ other ∈ before ++ after, Shape.attributeKey other.name ≠ utf8 name

namespace AttributedElement

variable {name : String}

def node (e : AttributedElement name) : ElementNode := ⟨e.body, e.children, true⟩

/-- All that the element says but for the attribute. -/
def rest {P R : Type} (e : AttributedElement name) (shape : Shape P R) : Except DecodeError P :=
  shape.gather (e.before ++ e.after) e.children

theorem read {P R : Type} {shape : Shape P R} (e : AttributedElement name)
    {act : Except DecodeError (P → P)} (effect : shape.Effect name e.attr act) {rest : P}
    (others : e.rest shape = .ok rest) : shape.read e.node = act.map (· rest) >>= shape.finish := by
  rw [node, Shape.read_sound shape e.sound, e.attributes,
    Shape.gather_insert effect e.others others]

end AttributedElement

/-! ## Fields with a codec -/

/-- A field with its codec, and the part of the record that it sets. -/
structure CodedField (R : Type) where
  field : RecordField R
  Value : Type
  codec : Codec Value
  Held : Type
  /-- How the record holds a value. -/
  hold : Value → Held
  get : R → Held
  set : Held → R → R
  coded : field.kind = .coded
  reads : ∀ text record, field.read text record =
    match codec.read text with
    | .ok value => .ok (set (hold value) record)
    | .error error => .error (.field error)
  get_set : ∀ held record, get (set held record) = held
  set_get : ∀ record, set (get record) record = record

namespace CodedField

variable {R : Type}

/-- A field that every record has. -/
def plain {α : Type} (name : String) (codec : Codec α) (get : R → α) (set : α → R → R)
    (get_set : ∀ v r, get (set v r) = v) (set_get : ∀ r, set (get r) r = r) : CodedField R where
  field := .coded name codec get set
  Value := α
  codec
  Held := α
  hold := id
  get
  set
  coded := rfl
  reads _ _ := rfl
  get_set
  set_get

/-- A field that may be absent. -/
def optional {α : Type} (name : String) (codec : Codec α) (get : R → Option α)
    (set : Option α → R → R) (get_set : ∀ v r, get (set v r) = v) (set_get : ∀ r, set (get r) r = r) :
    CodedField R where
  field := .optionalCoded name codec get fun v => set (some v)
  Value := α
  codec
  Held := Option α
  hold := some
  get
  set
  coded := rfl
  reads _ _ := rfl
  get_set
  set_get

/-- A field of a shape that sets no part that anything else of the shape reads or sets. -/
structure Apart (shape : Shape R R) (c : CodedField R) : Prop where
  known : c.field ∈ shape.fields
  keeps : ∀ held, ∀ other ∈ shape.fields, other.name ≠ c.field.name → other.Keeps (c.set held)
  keepsChildren : ∀ held, ∀ rule ∈ shape.children, rule.2.Keeps (c.set held)

end CodedField

/-- What is read of an element for a field with a codec. -/
structure FollowsCodec {R : Type} (shape : Shape R R) (c : CodedField R) : Prop where
  /-- The field holds what its codec reads, and no other depends on it. -/
  accepted : ∀ (e : AttributedElement c.field.name) (text : String) (rest : R) (value : c.Value),
    e.attr.text? = some text → e.rest shape = .ok rest → c.codec.read text = .ok value →
    shape.read e.node = .ok (c.set (c.hold value) rest) ∧
      c.get (c.set (c.hold value) rest) = c.hold value
  /-- What the codec refuses is refused, in the words of the codec. -/
  refused : ∀ (e : AttributedElement c.field.name) (text : String) (rest : R) (error : FormatError),
    e.attr.text? = some text → e.rest shape = .ok rest → c.codec.read text = .error error →
    shape.read e.node = .error (.field error) ∧
      (DecodeError.field error).message? = some error.message
  /-- Without the attribute the field is what it is at the start. -/
  absent : ∀ (element : ElementNode) (record : R),
    (∀ attr ∈ (tagAttributes element.body).all,
      Shape.attributeKey attr.name ≠ utf8 c.field.name) →
    shape.read element = .ok record → c.get record = c.get shape.start

namespace CodedField

variable {R : Type} {shape : Shape R R} {c : CodedField R}

/-- What a text does to a record. -/
def act (c : CodedField R) (text : String) : Except DecodeError (R → R) :=
  match c.codec.read text with
  | .ok value => .ok (c.set (c.hold value))
  | .error error => .error (.field error)

theorem eq_set_of_act {text : String} {change : R → R} (h : c.act text = .ok change) :
    ∃ held, change = c.set held := by
  rw [act] at h
  cases read : c.codec.read text with
  | error error =>
    rw [read] at h
    cases h
  | ok value =>
    rw [read] at h
    cases h
    exact ⟨_, rfl⟩

/-- The attribute does to the record what its text does. -/
def Apart.effect (apart : c.Apart shape) (names : FieldNames shape.fields) {attr : Attribute}
    (named : Shape.attributeKey attr.name = utf8 c.field.name) {text : String}
    (spelled : attr.text? = some text) : shape.Effect c.field.name attr (c.act text) where
  field := c.field
  text := text
  named := rfl
  known := by
    rw [named]
    exact find?_field names apart.known
  taken := by
    rw [c.coded]
    exact spelled
  acts record := by
    rw [c.reads, act]
    cases c.codec.read text <;> rfl
  keeps change done := by
    obtain ⟨held, rfl⟩ := eq_set_of_act done
    exact apart.keeps held
  keepsChildren change done := by
    obtain ⟨held, rfl⟩ := eq_set_of_act done
    exact apart.keepsChildren held

theorem Apart.follows (apart : c.Apart shape) (names : FieldNames shape.fields)
    (finished : shape.finish = .ok) : FollowsCodec shape c := by
  constructor
  · intro e text rest value spelled others read
    refine ⟨?_, c.get_set _ _⟩
    rw [e.read (apart.effect names e.named spelled) others, act, read, finished]
    rfl
  · intro e text rest error spelled others read
    refine ⟨?_, rfl⟩
    rw [e.read (apart.effect names e.named spelled) others, act, read]
    rfl
  · intro element record others read
    obtain ⟨-, -, gathered, all, done⟩ := Shape.read_ok_iff.mp read
    rw [finished] at done
    cases done
    have kept : c.set (c.get shape.start) record = record :=
      shape.gather_unchanged (apart.keeps _) (apart.keepsChildren _) others (c.set_get _) all
    rw [← kept, c.get_set]

end CodedField

/-- All fields of a shape that have a codec, and what is read for them. -/
structure FollowsCodecs {R : Type} (shape : Shape R R) (codedFields : List (CodedField R)) :
    Prop where
  complete : codedFields.map (·.field) = shape.fields.filter fun field => field.kind = .coded
  follows : ∀ c ∈ codedFields, FollowsCodec shape c

theorem FollowsCodecs.of_keeps {R : Type} {shape : Shape R R} {codedFields : List (CodedField R)}
    (names : FieldNames shape.fields) (finished : shape.finish = .ok)
    (complete : codedFields.map (·.field) = shape.fields.filter fun field => field.kind = .coded)
    (keeps : ∀ c ∈ codedFields, ∀ other ∈ shape.fields, other.name ≠ c.field.name →
      ∀ held, other.Keeps (c.set held))
    (keepsChildren : ∀ c ∈ codedFields, ∀ rule ∈ shape.children,
      ∀ held, rule.2.Keeps (c.set held)) : FollowsCodecs shape codedFields := by
  refine ⟨complete, fun c listed => ?_⟩
  have known : c.field ∈ codedFields.map (·.field) := List.mem_map.mpr ⟨c, listed, rfl⟩
  rw [complete] at known
  have apart : c.Apart shape := by
    refine ⟨(List.mem_filter.mp known).1, ?_, ?_⟩
    · intro held other mem ne
      exact keeps c listed other mem ne held
    · intro held rule mem
      exact keepsChildren c listed rule mem held
  exact apart.follows names finished

end WlanAdmin
