import WlanAdmin.Xml.Reference
import WlanAdmin.Xml.Scan

/-!
# WlanAdmin.Xml.Attribute

The attributes of a tag. Values keep their references: who wants a value resolves it. A missing
equals sign or quote, and a name that was there before, end the list as unsound; blanks may stand
around the equals sign and need not stand between attributes.
-/

namespace WlanAdmin.Xml

structure Attribute where
  name : Bytes
  /-- What stands between the quotes. -/
  value : Bytes
  deriving DecidableEq, Repr

/-- The text that a value spells once its references are resolved. -/
def Attribute.text? (attr : Attribute) : Option String :=
  (unescape attr.value).bind WlanAdmin.text?

/-- The first attribute of what follows a tag's name. -/
inductive AttributeStep where
  | finished
  | fault
  | found (first : Attribute) (rest : Bytes)

/-- The value after an equals sign. -/
def attributeValue (name : Bytes) (input : Bytes) : AttributeStep :=
  match input.dropWhile isBlank with
  | [] => .fault
  | quote :: rest =>
    if quote = 0x22 ∨ quote = 0x27 then
      match rest.dropWhile (· != quote) with
      | [] => .fault
      | _ :: after => .found ⟨name, rest.takeWhile (· != quote)⟩ after
    else .fault

/-- Reads one attribute. Its name is at least one octet, whatever that is. -/
def nextAttribute (input : Bytes) : AttributeStep :=
  match input.dropWhile isBlank with
  | [] => .finished
  | b :: rest =>
    let isNameByte := fun c => c != 0x3D && !isBlank c
    let name := b :: rest.takeWhile isNameByte
    match (rest.dropWhile isNameByte).dropWhile isBlank with
    | 0x3D :: after => attributeValue name after
    | _ => .fault

theorem attributeValue_length {name input : Bytes} {first : Attribute} {rest : Bytes}
    (h : attributeValue name input = .found first rest) : rest.length < input.length := by
  unfold attributeValue at h
  have blanks := length_dropWhile_le isBlank input
  split at h
  · cases h
  · rename_i quote tail htail
    rw [htail] at blanks
    split at h
    · have := length_dropWhile_le (· != quote) tail
      split at h
      · cases h
      · rename_i after hafter
        cases h
        rw [hafter] at this
        simp at this blanks
        omega
    · cases h

theorem nextAttribute_length {input : Bytes} {first : Attribute} {rest : Bytes}
    (h : nextAttribute input = .found first rest) : rest.length < input.length := by
  unfold nextAttribute at h
  have blanks := length_dropWhile_le isBlank input
  split at h
  · cases h
  · rename_i b tail htail
    rw [htail] at blanks
    simp only at h
    have name := length_dropWhile_le (fun c => c != 0x3D && !isBlank c) tail
    have more := length_dropWhile_le isBlank (tail.dropWhile fun c => c != 0x3D && !isBlank c)
    split at h
    · rename_i after hafter
      have := attributeValue_length h
      rw [hafter] at more
      simp at more blanks
      omega
    · cases h

/-- Attributes in the order of the tag, and whether nothing was wrong after the last of them. -/
structure Attributes where
  all : List Attribute
  sound : Bool
  deriving Repr

/-- The attributes of what follows a tag's name, given the names that were there before. -/
def readAttributes (names : List Bytes) (input : Bytes) : Attributes :=
  match _h : nextAttribute input with
  | .finished => ⟨[], true⟩
  | .fault => ⟨[], false⟩
  | .found first rest =>
    if first.name ∈ names then ⟨[], false⟩
    else
      let others := readAttributes (first.name :: names) rest
      ⟨first :: others.all, others.sound⟩
termination_by input.length
decreasing_by exact nextAttribute_length ‹_›

/-- The attributes of a tag. -/
def tagAttributes (body : Bytes) : Attributes := readAttributes [] (tagRest body)

/-- A name that declares a namespace: `xmlns`, alone or before a colon. -/
def isNamespaceName (name : Bytes) : Bool :=
  name == utf8 "xmlns" || (utf8 "xmlns:").isPrefixOf name

end WlanAdmin.Xml
