import WlanAdmin.Html.Table

/-!
# WlanAdmin.Html.Choice

The rules inside `select`, which holds options and text and little else.
-/

namespace WlanAdmin.Html.Build

/-- Ends the innermost `select`. -/
def closeSelect : Build Bool := do
  if ← inScope .select ["select"] then
    popThrough ["select"]
    resetMode
    return true
  else return false

def openInSelect (tag : Tag) : Build Next := do
  match tag.name with
  | "html" => mergeHtml tag
  | "option" =>
    if ← currentIs ["option"] then pop
    insert_ tag
    return .done
  | "optgroup" | "hr" =>
    if ← currentIs ["option"] then pop
    if ← currentIs ["optgroup"] then pop
    if tag.name = "hr" then insertVoid tag else insert_ tag
    return .done
  | "select" =>
    discard closeSelect
    return .done
  | "input" | "keygen" | "textarea" => return if ← closeSelect then .again else .done
  | "script" | "template" =>
    placeHeadElement tag
    return .done
  | _ => return .done

def closeInSelect (name : String) : Build Next := do
  match name with
  | "optgroup" =>
    match ← openElements with
    | option :: group :: _ =>
      if option.isOneOf ["option"] && group.isOneOf ["optgroup"] then pop
    | _ => pure ()
    if ← currentIs ["optgroup"] then pop
    return .done
  | "option" =>
    if ← currentIs ["option"] then pop
    return .done
  | "select" =>
    discard closeSelect
    return .done
  | "template" => endTemplate
  | _ => return .done

def inSelect (token : Token) : Build Next :=
  match token with
  | .text .null _ | .comment | .doctype _ => return .done
  | .text _ chars => do
    insertText chars
    return .done
  | .open tag => openInSelect tag
  | .close name => closeInSelect name
  | .endOfPage => inBody token

/-- Tags of a table end a `select` inside it. -/
def inSelectInTable (token : Token) : Build Next := do
  let names := ["caption", "table", "tbody", "tfoot", "thead", "tr", "td", "th"]
  match token with
  | .open tag =>
    if tag.name ∈ names then
      popThrough ["select"]
      resetMode
      return .again
  | .close name =>
    if name ∈ names then
      if ← inScope .table [name] then
        popThrough ["select"]
        resetMode
        return .again
      else return .done
  | _ => pure ()
  inSelect token

end WlanAdmin.Html.Build
