import WlanAdmin.Html.Formatting
import WlanAdmin.Html.Head

/-!
# WlanAdmin.Html.Body

The rules for the content of a page.
-/

namespace WlanAdmin.Html.Build

/-! ## Start tags -/

/-- Ends the list item around a new one. Of the special elements, only `address`, `div` and `p` do
not hide it. -/
def closeItem (names : List String) : Build Unit := do
  let rec search : List Element → Option String
    | [] => none
    | element :: outer =>
      if element.isOneOf names then some element.name
      else if element.isSpecial && !element.isOneOf ["address", "div", "p"] then none
      else search outer
  match search (← openElements) with
  | some name =>
    popImplied name
    popThrough [name]
  | none => pure ()

/-- The body of a page that has one already. -/
def mergeBody (tag : Tag) : Build Unit := do
  if !(← isOpen ["template"]) then
    match (← get).opened.reverse with
    | _ :: second :: _ =>
      if (← elementOf second).isOneOf ["body"] then
        setFramesetOk false
        onArena (·.addAttributes second tag.attributes)
    | _ => pure ()

/-- A set of frames in place of the body, where nothing has been shown yet. -/
def replaceBody (tag : Tag) : Build Unit := do
  let b ← get
  match b.opened.reverse with
  | html :: second :: _ =>
    if (b.arena.element second).isOneOf ["body"] && b.framesetOk then
      onArena (·.detach second)
      modify fun b => { b with opened := [html] }
      insert_ tag
      setMode .inFrameset
  | _ => pure ()

def openForm (tag : Tag) : Build Unit := do
  let inTemplate ← isOpen ["template"]
  if (← get).form.isSome && !inTemplate then return
  closeParagraphInScope
  let id ← insert tag
  if !inTemplate then modify fun b => { b with form := some id }

/-- A link ends one that is still open. -/
def openAnchor (tag : Tag) : Build Unit := do
  let b ← get
  match (sinceMarker b.formatting).find? fun id => (b.arena.element id).name = "a" with
  | some former =>
    closeFormatting "a"
    modify fun b => { b with formatting := b.formatting.erase (some former) }
    unopen former
  | none => pure ()
  insertFormatting tag

/-- Whether an input is not shown. -/
def isHidden (tag : Tag) : Bool :=
  (tag.attributes.get? "type").any fun type => type.toList.map Char.toLower == "hidden".toList

/-- Whether the modes of tables are in force. -/
def isTableMode (mode : Mode) : Bool :=
  [.inTable, .inCaption, .inTableBody, .inRow, .inCell].contains mode

/-- Whether there is a run of text in a block, or an element that shows something. -/
def shown : Build Unit := setFramesetOk false

/-- An element of another vocabulary. -/
def insertForeign (tag : Tag) (vocabulary : Vocabulary) : Build Unit := do
  discard (insertElement { name := tag.name, vocabulary, attributes := tag.attributes })
  if tag.selfClosing then pop

def openInBody (tag : Tag) : Build Next := do
  let name := tag.name
  if name = "html" then return ← mergeHtml tag
  if name ∈ headNames then
    placeHeadElement tag
  else if name = "body" then mergeBody tag
  else if name = "frameset" then replaceBody tag
  else if name ∈ blockNames ∨ name = "p" then
    closeParagraphInScope
    insert_ tag
  else if name ∈ headingNames then
    closeParagraphInScope
    if ← currentIs headingNames then pop
    insert_ tag
  else if name = "pre" ∨ name = "listing" then
    closeParagraphInScope
    insert_ tag
    modify fun b => { b with dropLineFeed := true, framesetOk := false }
  else if name = "form" then openForm tag
  else if name = "li" ∨ name = "dd" ∨ name = "dt" then
    shown
    closeItem (if name = "li" then ["li"] else ["dd", "dt"])
    closeParagraphInScope
    insert_ tag
  else if name = "plaintext" then
    closeParagraphInScope
    insert_ tag
    modify fun b => { b with reading := .plaintext }
  else if name = "button" then
    if ← inScope .default ["button"] then
      popImplied
      popThrough ["button"]
    reconstruct
    insert_ tag
    shown
  else if name = "a" then openAnchor tag
  else if name ∈ formattingNames then insertFormatting tag
  else if name = "nobr" then
    reconstruct
    if ← inScope .default ["nobr"] then closeFormatting "nobr"
    insertFormatting tag
  else if name ∈ ["applet", "marquee", "object"] then
    reconstruct
    insert_ tag
    pushMarker
    shown
  else if name = "table" then
    if !(← get).oldRules then closeParagraphInScope
    insert_ tag
    modify fun b => { b with framesetOk := false, mode := .inTable }
  else if name ∈ ["area", "br", "embed", "img", "image", "keygen", "wbr"] then
    reconstruct
    insertVoid (if name = "image" then { tag with name := "img" } else tag)
    shown
  else if name = "input" then
    reconstruct
    insertVoid tag
    if !isHidden tag then shown
  else if name ∈ ["param", "source", "track"] then insertVoid tag
  else if name = "hr" then
    closeParagraphInScope
    insertVoid tag
    shown
  else if name = "textarea" then
    insertRaw tag (.plainReferences "textarea")
    modify fun b => { b with dropLineFeed := true, framesetOk := false }
  else if name = "xmp" then
    closeParagraphInScope
    reconstruct
    shown
    insertRaw tag (.raw name)
  else if name = "iframe" then
    shown
    insertRaw tag (.raw name)
  else if name = "noembed" ∨ name = "noscript" then insertRaw tag (.raw name)
  else if name = "select" then
    reconstruct
    insert_ tag
    shown
    setMode (if isTableMode (← get).mode then .inSelectInTable else .inSelect)
  else if name = "optgroup" ∨ name = "option" then
    if ← currentIs ["option"] then pop
    reconstruct
    insert_ tag
  else if name = "rb" ∨ name = "rtc" then
    if ← inScope .default ["ruby"] then popImplied
    insert_ tag
  else if name = "rp" ∨ name = "rt" then
    if ← inScope .default ["ruby"] then popImplied "rtc"
    insert_ tag
  else if name = "math" then
    reconstruct
    insertForeign tag .math
  else if name = "svg" then
    reconstruct
    insertForeign tag .svg
  else if name ∈ ["caption", "col", "colgroup", "frame", "head", "tbody", "td", "tfoot", "th",
      "thead", "tr"] then
    return .done
  else
    reconstruct
    insert_ tag
  return .done

/-! ## End tags -/

/-- Ends an element that is open around the place of new content. -/
def closeInScope (name : String) : Build Unit := do
  if ← inScope .default [name] then
    popImplied
    popThrough [name]

def closeForm : Build Unit := do
  if ← isOpen ["template"] then closeInScope "form"
  else
    let form := (← get).form
    modify fun b => { b with form := none }
    match form with
    | none => return
    | some id =>
      let b ← get
      let inner := b.opened.takeWhile (· != id)
      let hidden := inner.any fun id => Scope.default.endsAt (b.arena.element id)
      if b.opened.contains id && !hidden then
        popImplied
        unopen id

def closeInBody (name : String) : Build Next := do
  if name = "template" then return ← endTemplate
  else if name = "body" ∨ name = "html" then
    if ← inScope .default ["body"] then
      setMode .afterBody
      return if name = "html" then .again else .done
  else if name ∈ blockNames ∨ name ∈ ["button", "listing", "pre"] then closeInScope name
  else if name = "form" then closeForm
  else if name = "p" then
    if !(← inScope .button ["p"]) then insert_ { name := "p" }
    closeParagraph
  else if name = "li" then
    if ← inScope .listItem ["li"] then
      popImplied "li"
      popThrough ["li"]
  else if name = "dd" ∨ name = "dt" then
    if ← inScope .default [name] then
      popImplied name
      popThrough [name]
  else if name ∈ headingNames then
    if ← inScope .default headingNames then
      popImplied
      popThrough headingNames
  else if name ∈ formattingNames ∨ name = "a" ∨ name = "nobr" then closeFormatting name
  else if name ∈ ["applet", "marquee", "object"] then
    if ← inScope .default [name] then
      popImplied
      popThrough [name]
      clearToMarker
  else if name = "br" then
    reconstruct
    insertVoid { name := "br" }
    shown
  else closeAny name
  return .done

/-! ## The end of the page -/

/-- The end of a page ends the open templates, the innermost first. -/
def endOfTemplates : Build Next := do
  if ← isOpen ["template"] then
    closeTemplate
    return .again
  else return .done

def inBody : Token → Build Next
  | .text .null _ | .comment | .doctype _ => return .done
  | .text kind chars => do
    reconstruct
    insertText chars
    if kind = .visible then shown
    return .done
  | .open tag => openInBody tag
  | .close name => closeInBody name
  | .endOfPage => do
    if (← get).templateModes.isEmpty then return .done else endOfTemplates

end WlanAdmin.Html.Build
