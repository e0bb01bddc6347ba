import WlanAdmin.Html.Node
import WlanAdmin.Page.Script

/-!
# WlanAdmin.Page.LoginPage

The outcome of a login, read off the page that answers it. The page is walked level by level, and
the first element that says something decides: a `meta` element that stands for the header `X-Auth`
rejects the login, and a script declares the session variables. A script without text declares
none, and ends the search.
-/

namespace WlanAdmin

inductive LoginPage where
  /-- The credentials were refused, for a reason. -/
  | rejected (reason : String)
  | script (declared : ScriptVariables)
  | noScript
  deriving DecidableEq, Repr

namespace LoginPage

open Html

/-- A text with its ASCII letters in lower case. -/
def lowerText (text : String) : List Char := text.toList.map Char.toLower

/-- What an element says about the login. -/
def ofNode : Node → Option LoginPage
  | .text _ | .fragment _ => none
  | .element name attributes inner =>
    if name = "script" then
      let text := (Node.element name attributes inner).directText
      some (if text.isEmpty then .noScript else .script (.read text))
    else if name = "meta" ∧
        (attributes.get? "http-equiv").any fun value => lowerText value = lowerText "X-Auth" then
      some (.rejected ((attributes.get? "content").getD ""))
    else none

/-- The first outcome from one level of a page on. -/
def ofLevel : List Node → Option LoginPage
  | [] => none
  | node :: rest =>
    match (node :: rest).findSome? ofNode with
    | some page => some page
    | none => ofLevel ((node :: rest).flatMap Node.children)
termination_by level => Node.sizeAll level
decreasing_by exact Node.sizeAll_flatMap_children node rest

/-- The outcome that a page shows. -/
def ofNodes (page : List Node) : LoginPage := (ofLevel page).getD .noScript

end LoginPage
end WlanAdmin
