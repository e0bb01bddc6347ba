import WlanAdmin.Envelope.Error
import WlanAdmin.Field.Codec
import WlanAdmin.Xml.Attribute

/-!
# WlanAdmin.Record.Field

The attributes of a record, one `RecordField` each: its name, how its text is taken from a tag, and
how that text is read into the record and written from it. A record type lists its fields once, in
the order in which they are written.

* Numbers are taken as they stand in the tag, without blanks around them and with references left
  alone; booleans are taken without blanks, references resolved; all else as it is, references
  resolved.
-/

namespace WlanAdmin

/-- How the text of a field is taken from a tag. -/
inductive FieldKind where
  | text
  | number
  | boolean
  | coded
  deriving DecidableEq, Repr

/-- Octets without the blanks at both ends. -/
def trimBlanks (octets : Bytes) : Bytes :=
  ((octets.dropWhile Xml.isBlank).reverse.dropWhile Xml.isBlank).reverse

/-- The text of a field, from the value of an attribute. -/
def FieldKind.take (kind : FieldKind) (value : Bytes) : Option String :=
  match kind with
  | .text | .coded => (Xml.unescape value).bind text?
  | .number => text? (trimBlanks value)
  | .boolean => (Xml.unescape value).bind fun octets => text? (trimBlanks octets)

/-- A field of records of type `R`. -/
structure RecordField (R : Type) where
  name : String
  kind : FieldKind
  /-- Sets the field from its text. -/
  read : String → R → Except DecodeError R
  /-- The field's text; `none` if the record has no such attribute. -/
  write : R → Option String

namespace RecordField

variable {R : Type}

/-- A text, kept as it is. -/
def text (name : String) (get : R → String) (set : String → R → R) : RecordField R where
  name
  kind := .text
  read value record := .ok (set value record)
  write record := some (get record)

/-- A value with a codec. -/
def coded {α : Type} (name : String) (codec : Codec α) (get : R → α) (set : α → R → R) :
    RecordField R where
  name
  kind := .coded
  read value record :=
    match codec.read value with
    | .ok a => .ok (set a record)
    | .error error => .error (.field error)
  write record := some (codec.write (get record))

/-- A value with a codec that may be absent. -/
def optionalCoded {α : Type} (name : String) (codec : Codec α) (get : R → Option α)
    (set : α → R → R) : RecordField R where
  name
  kind := .coded
  read value record :=
    match codec.read value with
    | .ok a => .ok (set a record)
    | .error error => .error (.field error)
  write record := (get record).map codec.write

/-- `true` or `1`, `false` or `0`; written as words. -/
def boolean (name : String) (get : R → Bool) (set : Bool → R → R) : RecordField R where
  name
  kind := .boolean
  read value record :=
    if value = "true" ∨ value = "1" then .ok (set true record)
    else if value = "false" ∨ value = "0" then .ok (set false record)
    else .error .mismatch
  write record := some (if get record then "true" else "false")

/-- An integer of a range. -/
def integer (name : String) (range : IntegerRange) (get : R → Int) (set : Int → R → R) :
    RecordField R where
  name
  kind := .number
  read value record :=
    match range.read value with
    | .ok n => .ok (set n record)
    | .error _ => .error .mismatch
  write record := some (writeInteger (get record))

/-- An unsigned number of 32 bits. -/
def count32 (name : String) (get : R → UInt32) (set : UInt32 → R → R) : RecordField R :=
  integer name .unsigned32 (fun record => (get record).toNat)
    (fun n => set (UInt32.ofNat n.toNat))

/-- An unsigned number of 64 bits. -/
def count64 (name : String) (get : R → UInt64) (set : UInt64 → R → R) : RecordField R :=
  integer name .unsigned64 (fun record => (get record).toNat)
    (fun n => set (UInt64.ofNat n.toNat))

/-- A signed number of 32 bits. -/
def signed32 (name : String) (get : R → Int32) (set : Int32 → R → R) : RecordField R :=
  integer name .signed32 (fun record => (get record).toInt) (fun n => set (Int32.ofInt n))

/-- A number of 32 bits that may be absent. -/
def optionalCount32 (name : String) (get : R → Option UInt32) (set : UInt32 → R → R) :
    RecordField R where
  name
  kind := .number
  read value record :=
    match IntegerRange.unsigned32.read value with
    | .ok n => .ok (set (UInt32.ofNat n.toNat) record)
    | .error _ => .error .mismatch
  write record := (get record).map fun n => writeInteger n.toNat

end RecordField

/-- The attributes of a record, as they are written. -/
def writeFields {R : Type} (fields : List (RecordField R)) (record : R) : List (String × String) :=
  fields.filterMap fun field => (field.write record).map fun value => (field.name, value)

end WlanAdmin
