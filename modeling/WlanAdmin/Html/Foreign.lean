import WlanAdmin.Html.Frames

/-!
# WlanAdmin.Html.Foreign

The rules inside drawings and math, and the choice of rules for a token.
-/

namespace WlanAdmin.Html.Build

/-- Places a token by the rules of the mode in force. -/
def byMode (token : Token) : Build Next := do
  match (← get).mode with
  | .initial => initial token
  | .beforeHtml => beforeHtml token
  | .beforeHead => beforeHead token
  | .inHead => inHead token
  | .afterHead => afterHead token
  | .inBody => inBody token
  | .text => inText token
  | .inTable => inTable token
  | .inTableText => inTableText token
  | .inCaption => inCaption token
  | .inColumnGroup => inColumnGroup token
  | .inTableBody => inTableBody token
  | .inRow => inRow token
  | .inCell => inCell token
  | .inSelect => inSelect token
  | .inSelectInTable => inSelectInTable token
  | .inTemplate => inTemplate token
  | .afterBody => afterBody token
  | .inFrameset => inFrameset token
  | .afterFrameset => afterFrameset token
  | .afterAfterBody => afterAfterBody token
  | .afterAfterFrameset => afterAfterFrameset token

/-- Whether a tag of the page ends the elements of another vocabulary around it. -/
def breaksOut (tag : Tag) : Bool :=
  breakoutNames.contains tag.name ||
    (tag.name == "font" &&
      ["color", "face", "size"].any fun name => (tag.attributes.get? name).isSome)

/-- Ends the elements of another vocabulary. -/
def popForeign : Build Unit :=
  popWhile fun element =>
    element.vocabulary != .html && !element.isMathTextHolder && !element.isPageHolder

/-- How many elements an end tag ends, the innermost first; none where an element of the page
comes first. -/
def foreignDepth (name : String) : List Element → Option Nat
  | [] => none
  | element :: outer =>
    if element.vocabulary = .html then none
    else if element.name = name then some 1
    else (foreignDepth name outer).map (· + 1)

/-- Inside an element of another vocabulary. -/
def inForeign (token : Token) : Build Next := do
  match token with
  | .text kind chars =>
    insertText (if kind = .null then chars.map fun _ => replacementChar else chars)
    if kind = .visible then shown
    return .done
  | .comment | .doctype _ => return .done
  | .open tag =>
    if breaksOut tag then
      popForeign
      byMode token
    else
      insertForeign tag (← current).vocabulary
      return .done
  | .close name =>
    if name = "br" ∨ name = "p" then
      popForeign
      byMode token
    else
      match foreignDepth name (← openElements) with
      | some depth =>
        modify fun b => { b with opened := b.opened.drop depth }
        return .done
      | none => byMode token
  | .endOfPage => byMode token

/-- Whether a token inside an element is placed by the rules of the page. -/
def isOfPage (element : Element) : Token → Bool
  | .endOfPage => true
  | .text .. => element.isMathTextHolder || element.isPageHolder
  | .open tag =>
    (element.isMathTextHolder && tag.name != "mglyph" && tag.name != "malignmark") ||
      (element.vocabulary == .math && element.name == "annotation-xml" && tag.name == "svg") ||
      element.isPageHolder
  | _ => false

/-- Places a token once. -/
def placeOnce (token : Token) : Build Next := do
  let element ← current
  if (← get).opened.isEmpty || element.vocabulary == .html || isOfPage element token then
    byMode token
  else inForeign token

/-- Places a token, in at most some number of rounds. -/
def placeRounds (token : Token) : Nat → Build Unit
  | 0 => return
  | rounds + 1 => do
    match ← placeOnce token with
    | .done => return
    | .again => placeRounds token rounds

/-- Rounds that are enough for any token with a number of open elements: each either ends an
element or moves on to a later part of the page. -/
def roundsFor (opened : Nat) : Nat := 2 * opened + 16

/-- A token less a line feed that is to be dropped; `none` if nothing is left of it. -/
def dropLineFeed (token : Token) : Build (Option Token) := do
  let drop := (← get).dropLineFeed
  modify fun b => { b with dropLineFeed := false }
  match token with
  | .text kind chars =>
    if drop && chars.toList.head? == some '\n' then
      let rest := chars.toList.tail
      return if rest.isEmpty then none else some (.text kind (String.ofList rest))
    else return some token
  | _ => return some token

/-- Places a token. -/
def place (token : Token) : Build Unit := do
  match ← dropLineFeed token with
  | some token => placeRounds token (roundsFor (← get).opened.length)
  | none => return

end WlanAdmin.Html.Build
