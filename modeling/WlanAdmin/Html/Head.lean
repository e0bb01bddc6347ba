import WlanAdmin.Html.Builder
import WlanAdmin.Html.Doctype

/-!
# WlanAdmin.Html.Head

The rules for the beginning of a page. The elements around its content are opened where a page
leaves their tags out.
-/

namespace WlanAdmin.Html.Build

/-- Before anything but blanks has been met. -/
def initial : Token → Build Next
  | .text .blank _ | .comment => return .done
  | .doctype type => do
    modify fun b => { b with oldRules := type.isOld, mode := .beforeHtml }
    return .done
  | _ => do
    modify fun b => { b with oldRules := true, mode := .beforeHtml }
    return .again

/-- Opens the outermost element. -/
def insertHtml (tag : Tag) : Build Unit := do
  let id ← create (.element { name := "html", attributes := tag.attributes })
  put (.inside Arena.page) id
  modify fun b => { b with opened := [id], mode := .beforeHead }

def beforeHtml : Token → Build Next
  | .text .blank _ | .comment | .doctype _ => return .done
  | token => do
    match token with
    | .open tag =>
      if tag.name = "html" then
        insertHtml tag
        return .done
    | .close name =>
      if name ∉ ["head", "body", "html", "br"] then return .done
    | _ => pure ()
    insertHtml { name := "html" }
    return .again

/-- Opens the head of the page. -/
def insertHead (tag : Tag) : Build Unit := do
  let id ← insert tag
  modify fun b => { b with head := some id, mode := .inHead }

def beforeHead : Token → Build Next
  | .text .blank _ | .comment | .doctype _ => return .done
  | token => do
    match token with
    | .open tag =>
      if tag.name = "html" then return ← mergeHtml tag
      if tag.name = "head" then
        insertHead tag
        return .done
    | .close name =>
      if name ∉ ["head", "body", "html", "br"] then return .done
    | _ => pure ()
    insertHead { name := "head" }
    return .again

/-- Opens a template, whose content has modes of its own and stands under a fragment. -/
def openTemplate (tag : Tag) : Build Unit := do
  let template ← insert tag
  put (.inside template) (← create .fragment)
  pushMarker
  modify fun b => { b with
    framesetOk := false, mode := .inTemplate, templateModes := .inTemplate :: b.templateModes }

/-- The tag of an element that belongs in the head. -/
def placeHeadElement (tag : Tag) : Build Unit :=
  match tag.name with
  | "title" => insertRaw tag (.plainReferences "title")
  | "noscript" | "noframes" | "style" => insertRaw tag (.raw tag.name)
  | "script" => insertRaw tag .script
  | "template" => openTemplate tag
  | _ => insertVoid tag

/-- The end tag of a template. -/
def endTemplate : Build Next := do
  if ← isOpen ["template"] then
    popWhile (·.isOneOf thoroughlyImpliedEndNames)
    closeTemplate
  return .done

def inHead (token : Token) : Build Next := do
  match token with
  | .text .blank chars =>
    insertText chars
    return .done
  | .comment | .doctype _ => return .done
  | .open tag =>
    if tag.name = "html" then return ← mergeHtml tag
    if tag.name ∈ headNames ∨ tag.name = "noscript" then
      placeHeadElement tag
      return .done
    if tag.name = "head" then return .done
  | .close name =>
    if name = "head" then
      pop
      setMode .afterHead
      return .done
    if name = "template" then return ← endTemplate
    if name ∉ ["body", "html", "br"] then return .done
  | _ => pure ()
  pop
  setMode .afterHead
  return .again

/-- Opens the body of the page. -/
def insertBody (tag : Tag) : Build Unit := do
  insert_ tag
  setMode .inBody

def afterHead (token : Token) : Build Next := do
  match token with
  | .text .blank chars =>
    insertText chars
    return .done
  | .comment | .doctype _ => return .done
  | .open tag =>
    if tag.name = "html" then return ← mergeHtml tag
    if tag.name = "body" then
      insertBody tag
      setFramesetOk false
      return .done
    if tag.name = "frameset" then
      insert_ tag
      setMode .inFrameset
      return .done
    if tag.name ∈ headNames then
      match (← get).head with
      | none => placeHeadElement tag
      | some head =>
        modify fun b => { b with opened := head :: b.opened }
        placeHeadElement tag
        unopen head
      return .done
    if tag.name = "head" then return .done
  | .close name =>
    if name = "template" then return ← endTemplate
    if name ∉ ["body", "html", "br"] then return .done
  | _ => pure ()
  insertBody { name := "body" }
  return .again

/-- In an element that holds nothing but text. -/
def inText : Token → Build Next
  | .text _ chars => do
    insertText chars
    return .done
  | token => do
    pop
    modify fun b => { b with mode := b.former, reading := .markup }
    return if token = .endOfPage then .again else .done

end WlanAdmin.Html.Build
