import WlanAdmin.Html.Arena

/-!
# WlanAdmin.Html.Category

Elements that are treated alike.
-/

namespace WlanAdmin.Html

/-- Names of elements of math that hold text. -/
def mathTextNames : List String := ["mi", "mo", "mn", "ms", "mtext"]

/-- Names of elements of drawings that hold parts of pages. -/
def svgPageNames : List String := ["foreignobject", "desc", "title"]

def headingNames : List String := ["h1", "h2", "h3", "h4", "h5", "h6"]

/-- Elements that formatting does not reach across without care. -/
def specialNames : List String := [
  "address", "applet", "area", "article", "aside", "base", "basefont", "bgsound", "blockquote",
  "body", "br", "button", "caption", "center", "col", "colgroup", "dd", "details", "dir", "div",
  "dl", "dt", "embed", "fieldset", "figcaption", "figure", "footer", "form", "frame", "frameset",
  "h1", "h2", "h3", "h4", "h5", "h6", "head", "header", "hgroup", "hr", "html", "iframe", "img",
  "input", "keygen", "li", "link", "listing", "main", "marquee", "menu", "meta", "nav", "noembed",
  "noframes", "noscript", "object", "ol", "p", "param", "plaintext", "pre", "script", "search",
  "section", "select", "source", "style", "summary", "table", "tbody", "td", "template",
  "textarea", "tfoot", "th", "thead", "title", "tr", "track", "ul", "wbr", "xmp"]

/-- Elements that start a block of their own: they end an open paragraph, and their end tag ends
whatever is open in them. -/
def blockNames : List String := [
  "address", "article", "aside", "blockquote", "center", "details", "dialog", "dir", "div", "dl",
  "fieldset", "figcaption", "figure", "footer", "header", "hgroup", "main", "menu", "nav", "ol",
  "search", "section", "summary", "ul"]

/-- Elements that only change how text looks. -/
def formattingNames : List String := [
  "b", "big", "code", "em", "font", "i", "s", "small", "strike", "strong", "tt", "u"]

/-- Elements that belong in the head of a page, wherever they stand. -/
def headNames : List String := [
  "base", "basefont", "bgsound", "link", "meta", "noframes", "script", "style", "template", "title"]

/-- Elements between which a table keeps no text. -/
def tableNames : List String := ["table", "tbody", "tfoot", "thead", "tr"]

def tableSectionNames : List String := ["tbody", "tfoot", "thead"]

def tableCellNames : List String := ["td", "th"]

/-- Elements whose end tag may be left out. -/
def impliedEndNames : List String :=
  ["dd", "dt", "li", "optgroup", "option", "p", "rb", "rp", "rt", "rtc"]

def thoroughlyImpliedEndNames : List String :=
  impliedEndNames ++ ["caption", "colgroup", "tbody", "td", "tfoot", "th", "thead", "tr"]

/-- Tags of pages that end an element of another vocabulary. -/
def breakoutNames : List String := [
  "b", "big", "blockquote", "body", "br", "center", "code", "dd", "div", "dl", "dt", "em", "embed",
  "h1", "h2", "h3", "h4", "h5", "h6", "head", "hr", "i", "img", "li", "listing", "menu", "meta",
  "nobr", "ol", "p", "pre", "ruby", "s", "small", "span", "strong", "strike", "sub", "sup",
  "table", "tt", "u", "ul", "var"]

namespace Element

/-- Whether an element of math or of drawings holds text or parts of pages. -/
def isForeignHolder (element : Element) : Bool :=
  match element.vocabulary with
  | .html => false
  | .math => element.name == "annotation-xml" || mathTextNames.contains element.name
  | .svg => svgPageNames.contains element.name

def isSpecial (element : Element) : Bool :=
  element.isOneOf specialNames || element.isForeignHolder

/-- Whether text and most tags inside an element are read as those of a page, though it is one of
math. -/
def isMathTextHolder (element : Element) : Bool :=
  element.vocabulary == .math && mathTextNames.contains element.name

/-- Whether everything inside an element is read as part of a page. -/
def isPageHolder (element : Element) : Bool :=
  match element.vocabulary with
  | .html => false
  | .svg => svgPageNames.contains element.name
  | .math =>
    element.name == "annotation-xml" &&
      ((element.attributes.get? "encoding").map fun value => value.toList.map Char.toLower).any
        fun value => value = "text/html".toList || value = "application/xhtml+xml".toList

end Element

/-- How far the search for an open element goes. -/
inductive Scope where
  | default
  | listItem
  | button
  | table
  | select
  deriving DecidableEq, Repr

/-- Whether the search ends at an element. -/
def Scope.endsAt (scope : Scope) (element : Element) : Bool :=
  let usual := element.isForeignHolder || element.isOneOf
    ["applet", "caption", "html", "table", "td", "th", "marquee", "object", "template"]
  match scope with
  | .default => usual
  | .listItem => usual || element.isOneOf ["ol", "ul"]
  | .button => usual || element.isOneOf ["button"]
  | .table => element.isOneOf ["html", "table", "template"]
  | .select => !element.isOneOf ["optgroup", "option"]

end WlanAdmin.Html
