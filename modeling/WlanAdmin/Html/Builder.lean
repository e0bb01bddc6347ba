import WlanAdmin.Html.Category

/-!
# WlanAdmin.Html.Builder

The state in which tokens are placed into the tree of a page, and the steps that the rules for the
different parts of a page share.
-/

namespace WlanAdmin.Html

/-- The part of a page whose rules place the next token. -/
inductive Mode where
  | initial
  | beforeHtml
  | beforeHead
  | inHead
  | afterHead
  | inBody
  /-- In an element that holds nothing but text. -/
  | text
  | inTable
  | inTableText
  | inCaption
  | inColumnGroup
  | inTableBody
  | inRow
  | inCell
  | inSelect
  | inSelectInTable
  | inTemplate
  | afterBody
  | inFrameset
  | afterFrameset
  | afterAfterBody
  | afterAfterFrameset
  deriving DecidableEq, Repr

structure Builder where
  arena : Arena := {}
  /-- The elements that have no end yet, the innermost first. -/
  opened : List NodeId := []
  /-- The formatting that goes on in new blocks, the latest first; `none` is a mark that it does
  not cross. -/
  formatting : List (Option NodeId) := []
  mode : Mode := .initial
  /-- The mode to return to after text. -/
  former : Mode := .initial
  /-- The modes of the open templates, the innermost first. -/
  templateModes : List Mode := []
  head : Option NodeId := none
  form : Option NodeId := none
  /-- Whether the page may still turn out to be a set of frames. -/
  framesetOk : Bool := true
  /-- Whether a table leaves an open paragraph open. -/
  oldRules : Bool := false
  /-- Whether content that a table cannot hold is put before it. -/
  fostering : Bool := false
  /-- Text directly in a table, the latest run first. -/
  tableText : List (TextKind × String) := []
  /-- Whether a line feed is dropped if it comes next. -/
  dropLineFeed : Bool := false
  reading : Reading := .markup

abbrev Build := StateM Builder

/-- Whether a token has found its place or is placed anew, by the rules of the mode now in force. -/
inductive Next where
  | done
  | again
  deriving DecidableEq

namespace Build

def setMode (mode : Mode) : Build Unit := modify fun b => { b with mode }

def setFramesetOk (ok : Bool) : Build Unit := modify fun b => { b with framesetOk := ok }

def onArena (change : Arena → Arena) : Build Unit :=
  modify fun b => { b with arena := change b.arena }

def elementOf (id : NodeId) : Build Element := return (← get).arena.element id

/-- The innermost open element. -/
def current : Build Element := do
  match (← get).opened with
  | id :: _ => elementOf id
  | [] => return { name := "" }

def currentIs (names : List String) : Build Bool := return (← current).isOneOf names

/-- The open elements, the innermost first. -/
def openElements : Build (List Element) := do
  let b ← get
  return b.opened.map b.arena.element

def isOpen (names : List String) : Build Bool :=
  return (← openElements).any (·.isOneOf names)

/-- Whether an open element is met before one that ends a scope. -/
def meets (scope : Scope) (isTarget : Element → Bool) : List Element → Bool
  | [] => false
  | element :: outer =>
    isTarget element || (!scope.endsAt element && meets scope isTarget outer)

def inScope (scope : Scope) (names : List String) : Build Bool :=
  return meets scope (·.isOneOf names) (← openElements)

/-- Ends the innermost element. -/
def pop : Build Unit := modify fun b => { b with opened := b.opened.tail }

/-- Ends elements as long as a condition holds of the innermost. -/
def popWhile (condition : Element → Bool) : Build Unit :=
  modify fun b => { b with opened := b.opened.dropWhile fun id => condition (b.arena.element id) }

/-- Ends elements up to and with the innermost of some names. -/
def popThrough (names : List String) : Build Unit := do
  popWhile fun element => !element.isOneOf names
  pop

/-- Ends elements whose end tag may be left out, but for one name. -/
def popImplied (but : String := "") : Build Unit :=
  popWhile fun element => element.isOneOf impliedEndNames && element.name != but

/-- Takes a node out of the open elements, wherever it is. -/
def unopen (id : NodeId) : Build Unit :=
  modify fun b => { b with opened := b.opened.filter (· != id) }

def pushMarker : Build Unit := modify fun b => { b with formatting := none :: b.formatting }

/-- Forgets the formatting since the last mark, and the mark. -/
def clearToMarker : Build Unit :=
  modify fun b => { b with formatting := (b.formatting.dropWhile (·.isSome)).tail }

/-! ## Places -/

inductive Place where
  /-- Behind the last child of a node. -/
  | inside (parent : NodeId)
  | before (sibling : NodeId)

/-- Where content goes that a table cannot hold: right before the innermost open table, unless a
template inside it is open. -/
def fosterPlace (arena : Arena) : List NodeId → Place
  | [] => .inside Arena.page
  | [outermost] => .inside outermost
  | id :: above :: outer =>
    let element := arena.element id
    if element.isOneOf ["template"] then .inside (arena.contents id)
    else if element.isOneOf ["table"] then
      if (arena.parent id).isSome then .before id else .inside above
    else fosterPlace arena (above :: outer)

/-- Where content of a node goes. -/
def placeIn (target : NodeId) : Build Place := do
  let b ← get
  if b.fostering && (b.arena.element target).isOneOf tableNames then
    return fosterPlace b.arena b.opened
  else return .inside (b.arena.contents target)

/-- Where content of the innermost element goes. -/
def currentPlace : Build Place := do
  match (← get).opened with
  | id :: _ => placeIn id
  | [] => return .inside Arena.page

def put (place : Place) (id : NodeId) : Build Unit :=
  onArena fun arena =>
    match place with
    | .inside parent => arena.append parent id
    | .before sibling => arena.insertBefore sibling id

/-- A new node, that stands nowhere yet. -/
def create (content : Content) : Build NodeId :=
  modifyGet fun b => (b.arena.cells.size, { b with arena := b.arena.add content })

/-- Moves a node to a place. -/
def move (place : Place) (id : NodeId) : Build Unit := do
  onArena (·.detach id)
  put place id

/-! ## Content -/

def insertText (chars : String) : Build Unit := do
  let place ← currentPlace
  let id ← create (.text chars)
  put place id

/-- Opens an element. -/
def insertElement (element : Element) : Build NodeId := do
  let place ← currentPlace
  let id ← create (.element element)
  put place id
  modify fun b => { b with opened := id :: b.opened }
  return id

/-- Opens an element of the page for a tag. -/
def insert (tag : Tag) : Build NodeId :=
  insertElement { name := tag.name, attributes := tag.attributes }

def insert_ (tag : Tag) : Build Unit := discard (insert tag)

/-- Adds an element that has no content. -/
def insertVoid (tag : Tag) : Build Unit := do
  insert_ tag
  pop

/-- Opens an element that holds nothing but text. -/
def insertRaw (tag : Tag) (reading : Reading) : Build Unit := do
  insert_ tag
  modify fun b => { b with reading, former := b.mode, mode := .text }

/-- Gives the outermost element the attributes of another tag of its kind. -/
def mergeHtml (tag : Tag) : Build Next := do
  if !(← isOpen ["template"]) then
    match (← get).opened.getLast? with
    | some html => onArena (·.addAttributes html tag.attributes)
    | none => pure ()
  return .done

/-- Ends an open paragraph. -/
def closeParagraph : Build Unit := do
  popImplied "p"
  popThrough ["p"]

/-- Ends a paragraph that is open around the place of new content. -/
def closeParagraphInScope : Build Unit := do
  if ← inScope .button ["p"] then closeParagraph

/-! ## Modes -/

/-- The mode that the open elements, the innermost first, call for. -/
def modeFor (head : Option NodeId) (templateModes : List Mode) : List Element → Mode
  | [] => .inBody
  | element :: outer =>
    let last := outer.isEmpty
    if element.vocabulary != .html then
      if last then .inBody else modeFor head templateModes outer
    else match element.name with
      | "select" =>
        match outer.find? (·.isOneOf ["template", "table"]) with
        | some found => if found.name == "table" then .inSelectInTable else .inSelect
        | none => .inSelect
      | "td" | "th" => if last then .inBody else .inCell
      | "tr" => .inRow
      | "tbody" | "thead" | "tfoot" => .inTableBody
      | "caption" => .inCaption
      | "colgroup" => .inColumnGroup
      | "table" => .inTable
      | "template" => templateModes.headD .inTemplate
      | "head" => if last then .inBody else .inHead
      | "body" => .inBody
      | "frameset" => .inFrameset
      | "html" => if head.isNone then .beforeHead else .afterHead
      | _ => if last then .inBody else modeFor head templateModes outer

def resetMode : Build Unit := do
  let elements ← openElements
  modify fun b => { b with mode := modeFor b.head b.templateModes elements }

/-- Ends the innermost template. -/
def closeTemplate : Build Unit := do
  popThrough ["template"]
  clearToMarker
  modify fun b => { b with templateModes := b.templateModes.tail }
  resetMode

end Build
end WlanAdmin.Html
