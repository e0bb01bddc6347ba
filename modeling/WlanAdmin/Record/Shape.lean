import WlanAdmin.Record.Field
import WlanAdmin.Xml.Node

/-!
# WlanAdmin.Record.Shape

Reading elements into records. A `Shape` lists the attributes and child elements that a record
takes, and the values it has where they are absent. Attributes come first, then children, each in
document order, so the first fault of an element is the one that is reported.

* Attributes and children are told by their local names; those that are not listed are skipped.
* Text is ignored, but a reference that stands for nothing is a fault. In an element that is
  skipped only text that comes first is looked at.
* A child occurs at most once. A list of children must be unbroken: other elements and text end it,
  blanks and comments do not.
-/

namespace WlanAdmin

open Xml

/-- An element: its tag, its nodes, and whether it was closed. -/
structure ElementNode where
  body : Bytes
  children : List Node
  closed : Bool

/-- What is done with a child element. -/
inductive ChildRule (R : Type) where
  | single (reader : ElementNode → R → Except DecodeError R)
  | listed (reader : ElementNode → R → Except DecodeError R)

/-- How elements are read into values of type `R`, by way of values that may lack something. -/
structure Shape (P R : Type) where
  start : P
  fields : List (RecordField P) := []
  children : List (String × ChildRule P) := []
  finish : P → Except DecodeError R

namespace Shape

variable {P R : Type}

/-- The key under which an attribute is looked up: its local name, except for the names that
declare namespaces. -/
def attributeKey (name : Bytes) : Bytes := if isNamespaceName name then name else localName name

/-- Sets the fields that attributes are for. `seen` holds the names of the fields set before. -/
def readFields (fields : List (RecordField P)) : (seen : List String) → List Attribute → P →
    Except DecodeError P
  | _, [], record => .ok record
  | seen, attr :: rest, record =>
    match fields.find? fun field => utf8 field.name = attributeKey attr.name with
    | none => readFields fields seen rest record
    | some field =>
      if field.name ∈ seen then .error .mismatch
      else match field.kind.take attr.value with
        | none => .error .mismatch
        | some value =>
          match field.read value record with
          | .error error => .error error
          | .ok record => readFields fields (field.name :: seen) rest record

/-- The nodes after any document types. -/
def dropDoctypes : List Node → List Node
  | .doctype :: rest => dropDoctypes rest
  | nodes => nodes

/-- Passes over an element: it must be closed, and text at its start must be sound. -/
def skip (element : ElementNode) : Except DecodeError Unit :=
  match dropDoctypes element.children with
  | .text none :: _ => .error .malformed
  | _ => if element.closed then .ok () else .error .malformed

/-- Reads children. `seen` holds the names met before, `list` the name, prefix included, of the
list that the last child belongs to. -/
def readChildren (rules : List (String × ChildRule P)) : (seen : List String) →
    (list : Option Bytes) → List Node → P → Except DecodeError P
  | _, _, [], record => .ok record
  | seen, list, .doctype :: rest, record => readChildren rules seen list rest record
  | _, _, .text none :: _, _ => .error .malformed
  | seen, list, .text (some content) :: rest, record =>
    readChildren rules seen (if content.all isBlank then list else none) rest record
  | seen, list, .element body children closed :: rest, record =>
    let element : ElementNode := ⟨body, children, closed⟩
    match rules.find? fun rule => utf8 rule.1 = localName (tagName body) with
    | none =>
      match skip element with
      | .error error => .error error
      | .ok () => readChildren rules seen none rest record
    | some (name, .single reader) =>
      if name ∈ seen then .error .mismatch
      else match reader element record with
        | .error error => .error error
        | .ok record => readChildren rules (name :: seen) none rest record
    | some (name, .listed reader) =>
      if name ∈ seen ∧ list ≠ some (tagName body) then .error .mismatch
      else match reader element record with
        | .error error => .error error
        | .ok record => readChildren rules (name :: seen) (some (tagName body)) rest record

/-- Reads an element. -/
def read (shape : Shape P R) (element : ElementNode) : Except DecodeError R := do
  let attrs := tagAttributes element.body
  let record ← readFields shape.fields [] attrs.all shape.start
  if !attrs.sound then .error .malformed
  else
    let record ← readChildren shape.children [] none element.children record
    if element.closed then shape.finish record else .error .malformed

/-- A shape whose values need nothing. -/
def ofFields (start : R) (fields : List (RecordField R))
    (children : List (String × ChildRule R) := []) : Shape R R :=
  { start, fields, children, finish := .ok }

end Shape

namespace Payload

/-- The first element of a payload. Document types and blanks may stand before it, other text may
not. -/
def firstElement : List Node → Except DecodeError ElementNode
  | [] => .error .mismatch
  | .doctype :: rest => firstElement rest
  | .text none :: _ => .error .malformed
  | .text (some content) :: rest =>
    if content.all isBlank then firstElement rest else .error .mismatch
  | .element body children closed :: _ => .ok ⟨body, children, closed⟩

/-- Reads the first element of a payload; its name does not matter, and nothing after it does. -/
def decode {P R : Type} (shape : Shape P R) (payload : Bytes) : Except DecodeError R :=
  if (text? payload).isNone then .error .mismatch
  else firstElement (topNodes payload) >>= shape.read

/-- Reads a payload whose content is of no interest: it starts with text or a closed element. -/
def decodeAny (payload : Bytes) : Except DecodeError Unit :=
  if (text? payload).isNone then .error .mismatch
  else match Shape.dropDoctypes (topNodes payload) with
    | [] => .error .mismatch
    | .text none :: _ => .error .malformed
    | .element body children closed :: _ => Shape.skip ⟨body, children, closed⟩
    | _ => .ok ()

end Payload
end WlanAdmin
