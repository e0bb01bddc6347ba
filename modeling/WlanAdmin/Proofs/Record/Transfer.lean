import WlanAdmin.Proofs.Text.Integer
import WlanAdmin.Proofs.Xml.Elements
import WlanAdmin.Record.Shape

/-!
# WlanAdmin.Proofs.Record.Transfer

What becomes of a record's attributes on the wire: each field that is written is read back, and sets
its own part of the record that is read.

* `RecordField.transfer` : a field goes from one record to another by way of a tag.
* `transfer_text` and the others : for each kind of field, what it sets.
* `readFields_written`   : reading the attributes of a record transfers its fields in order.
* `read_written`         : reading a written element.
-/

namespace WlanAdmin

open Xml

/-- The octets of a written integer. -/
theorem utf8_writeInteger (value : Int) :
    ∀ b ∈ utf8 (writeInteger value), (0x30 ≤ b ∧ b ≤ 0x39) ∨ b = 0x2D := by
  intro b hb
  rw [utf8_eq] at hb
  obtain ⟨c, hc, hb⟩ := List.mem_flatMap.mp hb
  rcases writeInteger_plain value c hc with hdigit | rfl
  · have hrange : 48 ≤ c.toNat ∧ c.toNat ≤ 57 := by
      simpa [Char.isDigit, UInt32.le_iff_toNat_le] using hdigit
    rw [utf8Char_ascii (by omega)] at hb
    cases List.mem_singleton.mp hb
    have hnumber : (UInt8.ofNat c.toNat).toNat = c.toNat := UInt8.toNat_ofNat_of_lt' (by
      show c.toNat < 256
      omega)
    refine .inl ⟨?_, ?_⟩ <;> rw [UInt8.le_iff_toNat_le, hnumber]
    · exact hrange.1
    · exact hrange.2
  · exact .inr (List.mem_singleton.mp hb)

theorem trimBlanks_eq {octets : Bytes} (h : ∀ b ∈ octets, isBlank b = false) :
    trimBlanks octets = octets := by
  rw [trimBlanks, dropWhile_head fun b hb => h b (List.mem_of_mem_head? hb), dropWhile_head,
    List.reverse_reverse]
  exact fun b hb => h b (List.mem_reverse.mp (List.mem_of_mem_head? hb))

/-- A text is taken from its written value. -/
theorem take_text (text : String) :
    (unescape (Escaping.doubleQuote.value (utf8 text))).bind text? = some text := by
  rw [unescape_value, Option.bind_some, text?_utf8]

theorem take_integer (value : Int) :
    FieldKind.number.take (Escaping.doubleQuote.value (utf8 (writeInteger value))) =
      some (writeInteger value) := by
  have hclean : ∀ b ∈ utf8 (writeInteger value), IsClean b := by
    intro b hb
    rcases utf8_writeInteger value b hb with ⟨low, high⟩ | rfl
    · refine ⟨?_, ?_, ?_, ?_⟩ <;> rintro rfl <;> revert low high <;> decide
    · decide
  have hblank : ∀ b ∈ utf8 (writeInteger value), isBlank b = false := by
    intro b hb
    rcases utf8_writeInteger value b hb with ⟨low, high⟩ | rfl
    · by_cases hs : isBlank b = true
      · simp only [isBlank, Bool.or_eq_true, beq_iff_eq] at hs
        rcases hs with ((rfl | rfl) | rfl) | rfl <;> revert low <;> decide
      · simpa using hs
    · rfl
  rw [FieldKind.take, Escaping.value_eq hclean, trimBlanks_eq hblank, text?_utf8]

namespace RecordField

variable {R α : Type} {name : String}

/-- Writes a field of one record to a tag and reads it into another record. -/
def transfer (field : RecordField R) (source target : R) : Except DecodeError R :=
  match field.write source with
  | none => .ok target
  | some text =>
    match field.kind.take (Escaping.doubleQuote.value (utf8 text)) with
    | none => .error .mismatch
    | some value => field.read value target

theorem transfer_text (get : R → String) (set : String → R → R) (source target : R) :
    (text name get set).transfer source target = .ok (set (get source) target) := by
  simp only [transfer, text, FieldKind.take, take_text]

theorem transfer_coded {codec : Codec α} (lawful : codec.Lawful) (get : R → α) (set : α → R → R)
    (source target : R) :
    (coded name codec get set).transfer source target = .ok (set (get source) target) := by
  simp only [transfer, coded, FieldKind.take, take_text, lawful (get source)]

theorem transfer_boolean (get : R → Bool) (set : Bool → R → R) (source target : R) :
    (boolean name get set).transfer source target = .ok (set (get source) target) := by
  have htake : ∀ on : Bool, FieldKind.boolean.take (Escaping.doubleQuote.value
      (utf8 (if on then "true" else "false"))) = some (if on then "true" else "false") := by
    decide +kernel
  simp only [transfer, boolean, htake (get source)]
  cases get source <;> simp

theorem transfer_integer {range : IntegerRange} (get : R → Int) (set : Int → R → R)
    (source target : R) (h : range.Contains (get source)) :
    (integer name range get set).transfer source target = .ok (set (get source) target) := by
  simp only [transfer, integer, take_integer, IntegerRange.read_writeInteger h]

theorem unsigned32_contains (n : UInt32) : IntegerRange.unsigned32.Contains n.toNat := by
  have := n.toNat_lt
  constructor <;> simp only [IntegerRange.unsigned32] <;> omega

theorem transfer_count32 (get : R → UInt32) (set : UInt32 → R → R) (source target : R) :
    (count32 name get set).transfer source target = .ok (set (get source) target) := by
  rw [count32, transfer_integer (fun record => (get record).toNat) _ _ _
    (unsigned32_contains (get source))]
  simp

theorem transfer_signed32 (get : R → Int32) (set : Int32 → R → R) (source target : R) :
    (signed32 name get set).transfer source target = .ok (set (get source) target) := by
  have hrange : IntegerRange.signed32.Contains (get source).toInt := by
    have := (get source).toInt_lt
    have := (get source).le_toInt
    constructor <;> simp only [IntegerRange.signed32] <;> omega
  rw [signed32, transfer_integer (fun record => (get record).toInt) _ _ _ hrange]
  simp

theorem transfer_optionalCount32 (get : R → Option UInt32) (set : UInt32 → R → R)
    (source target : R) :
    (optionalCount32 name get set).transfer source target =
      .ok (match get source with
        | none => target
        | some n => set n target) := by
  cases hget : get source with
  | none => simp only [transfer, optionalCount32, hget, Option.map_none]
  | some n =>
    simp only [transfer, optionalCount32, hget, Option.map_some, take_integer,
      IntegerRange.read_writeInteger (unsigned32_contains n)]
    simp

end RecordField

/-! ## All fields of a record -/

/-- The names of a record's fields are plain and differ. -/
structure FieldNames {P : Type} (fields : List (RecordField P)) : Prop where
  plain : ∀ name ∈ fields.map (·.name), PlainName name
  distinct : (fields.map (·.name)).Nodup

section

variable {P R : Type} {fields : List (RecordField P)}

theorem writeFields_sublist (fields : List (RecordField P)) (source : P) :
    ((writeFields fields source).map Prod.fst).Sublist (fields.map (·.name)) := by
  unfold writeFields
  induction fields with
  | nil => exact .slnil
  | cons field fields ih =>
    cases hwrite : field.write source with
    | none =>
      rw [List.filterMap_cons_none (by rw [hwrite]; rfl)]
      exact ih.cons _
    | some text =>
      rw [List.filterMap_cons_some (by rw [hwrite]; rfl)]
      exact ih.cons_cons _

/-- The tag of a record's element. -/
def recordTag (name : String) (named : PlainName name) (names : FieldNames fields) (source : P) :
    WrittenTag where
  name
  attrs := writeFields fields source
  named
  attrsNamed attr ha :=
    names.plain _ ((writeFields_sublist fields source).subset (List.mem_map.mpr ⟨attr, ha, rfl⟩))
  distinct := (writeFields_sublist fields source).nodup names.distinct

theorem attributeKey_plain {name : String} (h : PlainName name) :
    Shape.attributeKey (utf8 name) = utf8 name := by
  rw [Shape.attributeKey, localName_plain h, ite_self]

theorem find?_field (names : FieldNames fields) {field : RecordField P} (h : field ∈ fields) :
    fields.find? (fun other => utf8 other.name = utf8 field.name) = some field := by
  have distinct := names.distinct
  clear names
  induction fields with
  | nil => cases h
  | cons first fields ih =>
    obtain ⟨hfirst, distinct⟩ := List.nodup_cons.mp distinct
    rcases List.mem_cons.mp h with rfl | h
    · exact List.find?_cons_of_pos (by simp)
    · have hne : utf8 first.name ≠ utf8 field.name := fun he =>
        hfirst (List.mem_map.mpr ⟨field, h, (utf8_inj he).symm⟩)
      rw [List.find?_cons_of_neg (by simpa using hne)]
      exact ih h distinct

/-- Reading the attributes that some of the fields have written transfers these fields, one after
the other. -/
theorem readFields_written (names : FieldNames fields) (source : P)
    {part : List (RecordField P)} (known : ∀ field ∈ part, field ∈ fields)
    (distinct : (part.map (·.name)).Nodup) (seen : List String)
    (fresh : ∀ field ∈ part, field.name ∉ seen) (target : P) :
    Shape.readFields fields seen
        ((writeFields part source).map (writtenAttribute .doubleQuote)) target =
      part.foldlM (fun target field => field.transfer source target) target := by
  induction part generalizing seen target with
  | nil => rfl
  | cons field rest ih =>
    obtain ⟨hne, distinct⟩ := List.nodup_cons.mp distinct
    have hknown := known field List.mem_cons_self
    have hplain := names.plain _ (List.mem_map.mpr ⟨field, hknown, rfl⟩)
    have ih := ih (fun f hf => known f (List.mem_cons_of_mem _ hf)) distinct
    rw [List.foldlM_cons, RecordField.transfer]
    cases hwrite : field.write source with
    | none =>
      rw [writeFields, List.filterMap_cons_none (by rw [hwrite]; rfl)]
      exact ih seen (fun f hf => fresh f (List.mem_cons_of_mem _ hf)) target
    | some text =>
      rw [writeFields, List.filterMap_cons_some (by rw [hwrite]; rfl), List.map_cons,
        Shape.readFields]
      simp only [writtenAttribute, attributeKey_plain hplain, find?_field names hknown,
        if_neg (fresh field List.mem_cons_self)]
      cases field.kind.take (Escaping.doubleQuote.value (utf8 text)) with
      | none => rfl
      | some value =>
        simp only
        cases field.read value target with
        | error error => rfl
        | ok target =>
          refine ih (field.name :: seen) (fun f hf hm => ?_) target
          rcases List.mem_cons.mp hm with he | hm
          · exact hne (List.mem_map.mpr ⟨f, hf, he⟩)
          · exact fresh f (List.mem_cons_of_mem _ hf) hm

/-- Reading a written element is reading its children, once the attributes are transferred. -/
theorem Shape.read_written (shape : Shape P R) (name : String) (named : PlainName name)
    (names : FieldNames shape.fields) (source : P) {record : P}
    (transferred : shape.fields.foldlM (fun target field => field.transfer source target)
      shape.start = .ok record) (children : List Node) :
    shape.read ⟨(recordTag name named names source).body, children, true⟩ =
      readChildren shape.children [] none children record >>= shape.finish := by
  let tag := recordTag name named names source
  have hattrs : tagAttributes tag.body =
      ⟨(writeFields shape.fields source).map (writtenAttribute .doubleQuote), true⟩ :=
    tag.tagAttributes_body
  have hfields := readFields_written names source (fun _ h => h) names.distinct []
    (fun _ _ => List.not_mem_nil) shape.start
  rw [Shape.read, hattrs, hfields, transferred]
  rfl

end

end WlanAdmin
