import WlanAdmin.Html.Body

/-!
# WlanAdmin.Html.Table

The rules inside tables. What a table cannot hold is put before it.
-/

namespace WlanAdmin.Html.Build

/-- Places a token by the rules of the body, with content that a table cannot hold before it. -/
def foster (token : Token) : Build Next := do
  modify fun b => { b with fostering := true }
  let next ← inBody token
  modify fun b => { b with fostering := false }
  return next

/-- Ends elements up to one of some names, or to the end of the table's reach. -/
def clearBackTo (names : List String) : Build Unit :=
  popWhile fun element => !element.isOneOf (names ++ ["template", "html"])

/-- Opens an element of a table and goes on by its rules. -/
def openPart (tag : Tag) (mode : Mode) : Build Unit := do
  insert_ tag
  setMode mode

/-- Names of the tags that belong right in a table. -/
def tablePartNames : List String :=
  ["caption", "col", "colgroup", "tbody", "td", "tfoot", "th", "thead", "tr"]

/-- Ends the innermost table. -/
def closeTable : Build Bool := do
  if ← inScope .table ["table"] then
    popThrough ["table"]
    resetMode
    return true
  else return false

def formInTable (tag : Tag) : Build Unit := do
  if (← get).form.isNone && !(← isOpen ["template"]) then
    let id ← insert tag
    modify fun b => { b with form := some id }
    pop

def openInTable (tag : Tag) : Build Next := do
  match tag.name with
  | "caption" =>
    clearBackTo ["table"]
    pushMarker
    openPart tag .inCaption
    return .done
  | "colgroup" =>
    clearBackTo ["table"]
    openPart tag .inColumnGroup
    return .done
  | "col" =>
    clearBackTo ["table"]
    openPart { name := "colgroup" } .inColumnGroup
    return .again
  | "tbody" | "tfoot" | "thead" =>
    clearBackTo ["table"]
    openPart tag .inTableBody
    return .done
  | "td" | "th" | "tr" =>
    clearBackTo ["table"]
    openPart { name := "tbody" } .inTableBody
    return .again
  | "table" => return if ← closeTable then .again else .done
  | "style" | "script" | "template" =>
    placeHeadElement tag
    return .done
  | "input" =>
    if isHidden tag then
      insertVoid tag
      return .done
    else foster (.open tag)
  | "form" =>
    formInTable tag
    return .done
  | _ => foster (.open tag)

def inTable (token : Token) : Build Next := do
  match token with
  | .text .. =>
    if ← currentIs (tableNames ++ ["template"]) then
      modify fun b => { b with tableText := [], former := b.mode, mode := .inTableText }
      return .again
    else foster token
  | .comment | .doctype _ => return .done
  | .open tag => openInTable tag
  | .close name =>
    if name = "table" then
      discard closeTable
      return .done
    else if name ∈ tablePartNames ++ ["body", "html"] then return .done
    else if name = "template" then endTemplate
    else foster token
  | .endOfPage => inBody token

/-- Places each run of text before the table. -/
def fosterTexts : List (TextKind × String) → Build Unit
  | [] => return
  | (kind, chars) :: rest => do
    discard (foster (.text kind chars))
    fosterTexts rest

/-- Text directly in a table stays there if it is all blank. -/
def inTableText : Token → Build Next
  | .text .null _ => return .done
  | .text kind chars => do
    modify fun b => { b with tableText := (kind, chars) :: b.tableText }
    return .done
  | _ => do
    let texts := (← get).tableText.reverse
    if texts.all fun (kind, _) => kind == .blank then
      if !texts.isEmpty then insertText (String.join (texts.map Prod.snd))
    else fosterTexts texts
    modify fun b => { b with mode := b.former, tableText := [] }
    return .again

/-- Ends the caption of a table. -/
def closeCaption : Build Bool := do
  if ← inScope .table ["caption"] then
    popImplied
    popThrough ["caption"]
    clearToMarker
    setMode .inTable
    return true
  else return false

def inCaption (token : Token) : Build Next := do
  match token with
  | .open tag =>
    if tag.name ∈ tablePartNames then return if ← closeCaption then .again else .done
    else inBody token
  | .close name =>
    if name = "caption" then
      discard closeCaption
      return .done
    else if name = "table" then return if ← closeCaption then .again else .done
    else if name ∈ tablePartNames ++ ["body", "html"] then return .done
    else inBody token
  | _ => inBody token

def inColumnGroup (token : Token) : Build Next := do
  match token with
  | .text .blank chars =>
    insertText chars
    return .done
  | .comment | .doctype _ => return .done
  | .open tag =>
    if tag.name = "html" then return ← mergeHtml tag
    if tag.name = "col" then
      insertVoid tag
      return .done
    if tag.name = "template" then
      placeHeadElement tag
      return .done
  | .close name =>
    if name = "col" then return .done
    if name = "template" then return ← endTemplate
    if name = "colgroup" then
      if ← currentIs ["colgroup"] then
        pop
        setMode .inTable
      return .done
  | .endOfPage => return ← inBody token
  | _ => pure ()
  if ← currentIs ["colgroup"] then
    pop
    setMode .inTable
    return .again
  else return .done

/-- Ends the section of a table. -/
def closeSection : Build Unit := do
  clearBackTo tableSectionNames
  pop
  setMode .inTable

def inTableBody (token : Token) : Build Next := do
  match token with
  | .open tag =>
    if tag.name = "tr" then
      clearBackTo tableSectionNames
      openPart tag .inRow
      return .done
    if tag.name ∈ tableCellNames then
      clearBackTo tableSectionNames
      openPart { name := "tr" } .inRow
      return .again
    if tag.name ∈ tablePartNames then
      if ← inScope .table tableSectionNames then
        closeSection
        return .again
      else return .done
  | .close name =>
    if name ∈ tableSectionNames then
      if ← inScope .table [name] then closeSection
      return .done
    if name = "table" then
      if ← inScope .table tableSectionNames then
        closeSection
        return .again
      else return .done
    if name ∈ tablePartNames ++ ["body", "html"] then return .done
  | _ => pure ()
  inTable token

/-- Ends the row of a table. -/
def closeRow : Build Bool := do
  if ← inScope .table ["tr"] then
    clearBackTo ["tr"]
    pop
    setMode .inTableBody
    return true
  else return false

def inRow (token : Token) : Build Next := do
  match token with
  | .open tag =>
    if tag.name ∈ tableCellNames then
      clearBackTo ["tr"]
      openPart tag .inCell
      pushMarker
      return .done
    if tag.name ∈ tablePartNames then return if ← closeRow then .again else .done
  | .close name =>
    if name = "tr" then
      discard closeRow
      return .done
    if name = "table" then return if ← closeRow then .again else .done
    if name ∈ tableSectionNames then
      if ← inScope .table [name] then return if ← closeRow then .again else .done
      else return .done
    if name ∈ tablePartNames ++ ["body", "html"] then return .done
  | _ => pure ()
  inTable token

/-- Ends a cell of a table. -/
def closeCell (names : List String) : Build Unit := do
  popImplied
  popThrough names
  clearToMarker
  setMode .inRow

def inCell (token : Token) : Build Next := do
  match token with
  | .open tag =>
    if tag.name ∈ tablePartNames then
      if ← inScope .table tableCellNames then
        closeCell tableCellNames
        return .again
      else return .done
  | .close name =>
    if name ∈ tableCellNames then
      if ← inScope .table [name] then closeCell [name]
      return .done
    if name ∈ tableNames then
      if ← inScope .table [name] then
        closeCell tableCellNames
        return .again
      else return .done
    if name ∈ ["body", "caption", "col", "colgroup", "html"] then return .done
  | _ => pure ()
  inBody token

end WlanAdmin.Html.Build
