import WlanAdmin.Html.Choice

/-!
# WlanAdmin.Html.Frames

The rules for templates, for sets of frames, and for what follows the content of a page.
-/

namespace WlanAdmin.Html.Build

/-- The mode that the first tag of a template calls for. -/
def templateModeFor (name : String) : Mode :=
  match name with
  | "caption" | "colgroup" | "tbody" | "tfoot" | "thead" => .inTable
  | "col" => .inColumnGroup
  | "tr" => .inTableBody
  | "td" | "th" => .inRow
  | _ => .inBody

def inTemplate (token : Token) : Build Next := do
  match token with
  | .open tag =>
    if tag.name ∈ headNames then
      placeHeadElement tag
      return .done
    let mode := templateModeFor tag.name
    modify fun b => { b with mode, templateModes := mode :: b.templateModes.tail }
    return .again
  | .close name => if name = "template" then endTemplate else return .done
  | .endOfPage => endOfTemplates
  | _ => inBody token

def afterBody (token : Token) : Build Next := do
  match token with
  | .text .blank _ => return ← inBody token
  | .comment | .doctype _ | .endOfPage => return .done
  | .open tag => if tag.name = "html" then return ← mergeHtml tag
  | .close name =>
    if name = "html" then
      setMode .afterAfterBody
      return .done
  | _ => pure ()
  setMode .inBody
  return .again

def inFrameset (token : Token) : Build Next := do
  match token with
  | .text .blank chars => insertText chars
  | .open tag =>
    match tag.name with
    | "html" => return ← mergeHtml tag
    | "frameset" => insert_ tag
    | "frame" => insertVoid tag
    | "noframes" => placeHeadElement tag
    | _ => pure ()
  | .close name =>
    if name = "frameset" && !(← currentIs ["html"]) then
      pop
      if !(← currentIs ["frameset"]) then setMode .afterFrameset
  | _ => pure ()
  return .done

def afterFrameset (token : Token) : Build Next := do
  match token with
  | .text .blank chars => insertText chars
  | .open tag =>
    match tag.name with
    | "html" => return ← mergeHtml tag
    | "noframes" => placeHeadElement tag
    | _ => pure ()
  | .close name => if name = "html" then setMode .afterAfterFrameset
  | _ => pure ()
  return .done

def afterAfterBody (token : Token) : Build Next := do
  match token with
  | .text .blank _ => return ← inBody token
  | .comment | .doctype _ | .endOfPage => return .done
  | .open tag => if tag.name = "html" then return ← mergeHtml tag
  | _ => pure ()
  setMode .inBody
  return .again

def afterAfterFrameset (token : Token) : Build Next := do
  match token with
  | .text .blank _ => inBody token
  | .open tag =>
    match tag.name with
    | "html" => mergeHtml tag
    | "noframes" =>
      placeHeadElement tag
      return .done
    | _ => return .done
  | _ => return .done

end WlanAdmin.Html.Build
