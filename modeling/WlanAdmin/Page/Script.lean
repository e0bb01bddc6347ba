import WlanAdmin.Text.Bytes

/-!
# WlanAdmin.Page.Script

The session variables that a script declares. A value stands between quotes, right after the words
that declare it, and is never empty.
-/

namespace WlanAdmin

/-- How a script declares a variable: the text before its value, and the quote around it. -/
structure Declaration where
  lead : String
  quote : Char
  deriving DecidableEq, Repr

namespace Declaration

def privilege : Declaration := ⟨"var privilege = \"", '"'⟩

def version : Declaration := ⟨"var frameVersion = \"", '"'⟩

/-- Spelled as the controllers spell it. -/
def token : Declaration := ⟨"var csfrToken = '", '\''⟩

/-- The value declared right at the start of a text. -/
def valueAt (declaration : Declaration) (text : List Char) : Option (List Char) :=
  let lead := declaration.lead.toList
  if lead.isPrefixOf text then
    let rest := text.drop lead.length
    let value := rest.takeWhile (· != declaration.quote)
    if value.isEmpty || value.length == rest.length then none else some value
  else none

/-- The leftmost value declared in a text. -/
def value? (declaration : Declaration) : List Char → Option (List Char)
  | [] => none
  | c :: rest =>
    match declaration.valueAt (c :: rest) with
    | some value => some value
    | none => declaration.value? rest

end Declaration

/-- The session variables of a script; those it does not declare are none. -/
structure ScriptVariables where
  privilege : Option String := none
  version : Option String := none
  token : Option String := none
  deriving DecidableEq, Repr

def ScriptVariables.read (script : String) : ScriptVariables :=
  let value := fun declaration : Declaration =>
    (declaration.value? script.toList).map String.ofList
  ⟨value .privilege, value .version, value .token⟩

end WlanAdmin
