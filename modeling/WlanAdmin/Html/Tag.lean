import WlanAdmin.Html.Reference
import WlanAdmin.Html.Token

/-!
# WlanAdmin.Html.Tag

Reading the inside of a tag, a character at a time. Names are kept in lower case, of two attributes
of one name the first counts, and references in values are resolved. A tag that the page breaks off
is no tag.
-/

namespace WlanAdmin.Html

/-- Where in a tag the reader is. -/
inductive TagPlace where
  | name
  /-- Where an attribute may start. -/
  | gap
  | attributeName
  | afterAttributeName
  | beforeValue
  | quoted (quote : Char)
  | unquoted
  /-- Right after a slash. -/
  | slash

/-- What has been read of a tag. Texts are kept backwards. -/
structure TagDraft where
  name : List Char := []
  attributes : Attributes := []
  attributeName : List Char := []
  value : List Char := []

/-- A character that cannot stand in names and values is replaced. -/
def fixNull (c : Char) : Char := if c.toNat = 0 then replacementChar else c

namespace TagDraft

/-- Adds the attribute being read, if there is one and it is the first of its name. -/
def endAttribute (draft : TagDraft) : TagDraft :=
  let name := String.ofList draft.attributeName.reverse
  let cleared := { draft with attributeName := [], value := [] }
  if draft.attributeName.isEmpty || (draft.attributes.get? name).isSome then cleared
  else
    let value := String.ofList (resolve true (draft.value.reverse.map fixNull))
    { cleared with attributes := draft.attributes ++ [(name, value)] }

/-- Starts an attribute whose name starts with a character. -/
def startAttribute (draft : TagDraft) (c : Char) : TagDraft :=
  { draft.endAttribute with attributeName := [fixNull c.toLower] }

def finish (draft : TagDraft) (selfClosing : Bool) : Tag :=
  { name := String.ofList draft.name.reverse, attributes := draft.endAttribute.attributes,
    selfClosing }

end TagDraft

/-- The effect of one character of a tag. -/
inductive TagStep where
  | stay (place : TagPlace) (draft : TagDraft)
  | done (tag : Tag)

/-- A character where an attribute may start. -/
def stepGap (draft : TagDraft) (c : Char) : TagStep :=
  if isBlank c then .stay .gap draft
  else if c = '/' then .stay .slash draft
  else if c = '>' then .done (draft.finish false)
  else .stay .attributeName (draft.startAttribute c)

def stepTag (draft : TagDraft) (c : Char) : TagPlace → TagStep
  | .name =>
    if isBlank c ∨ c = '/' ∨ c = '>' then stepGap draft c
    else .stay .name { draft with name := fixNull c.toLower :: draft.name }
  | .gap => stepGap draft c
  | .attributeName =>
    if isBlank c then .stay .afterAttributeName draft
    else if c = '/' ∨ c = '>' then stepGap draft c
    else if c = '=' then .stay .beforeValue draft
    else .stay .attributeName
      { draft with attributeName := fixNull c.toLower :: draft.attributeName }
  | .afterAttributeName =>
    if isBlank c then .stay .afterAttributeName draft
    else if c = '=' then .stay .beforeValue draft
    else stepGap draft c
  | .beforeValue =>
    if isBlank c then .stay .beforeValue draft
    else if c = '"' ∨ c = '\'' then .stay (.quoted c) draft
    else if c = '>' then .done (draft.finish false)
    else .stay .unquoted { draft with value := [c] }
  | .quoted quote =>
    if c = quote then .stay .gap draft.endAttribute
    else .stay (.quoted quote) { draft with value := c :: draft.value }
  | .unquoted =>
    if isBlank c then .stay .gap draft.endAttribute
    else if c = '>' then .done (draft.finish false)
    else .stay .unquoted { draft with value := c :: draft.value }
  | .slash => if c = '>' then .done (draft.finish true) else stepGap draft c

/-- A tag from its place on, and what follows it. -/
def scanTag : TagPlace → TagDraft → List Char → Option (Tag × List Char)
  | _, _, [] => none
  | place, draft, c :: rest =>
    match stepTag draft c place with
    | .stay place draft => scanTag place draft rest
    | .done tag => some (tag, rest)

/-- The tag whose name starts a text, and what follows it. -/
def readTag (text : List Char) : Option (Tag × List Char) := scanTag .name {} text

end WlanAdmin.Html
