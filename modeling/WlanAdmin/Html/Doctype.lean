import WlanAdmin.Html.Tag

/-!
# WlanAdmin.Html.Doctype

Reading the declaration of a page's type, and telling the old types for which a table does not end
a paragraph.
-/

namespace WlanAdmin.Html

/-- A quoted identifier: its text, whether it is closed, and what follows. A closing bracket ends
it too. -/
def readIdentifier (quote : Char) (text : List Char) : String × Bool × List Char :=
  let inside := fun c : Char => c != quote && c != '>'
  let value := String.ofList ((text.takeWhile inside).map fixNull)
  match text.dropWhile inside with
  | c :: rest => if c = quote then (value, true, rest) else (value, false, c :: rest)
  | [] => (value, false, [])

/-- The system identifier after an optional public one, in the text up to the closing bracket. -/
def readSystem (type : Doctype) (text : List Char) : Doctype :=
  match text.dropWhile isBlank with
  | '"' :: rest => finish '"' rest
  | '\'' :: rest => finish '\'' rest
  | [] => { type with broken := type.publicId.isNone }
  | _ => { type with broken := true }
where
  finish (quote : Char) (text : List Char) : Doctype :=
    let (value, closed, _) := readIdentifier quote text
    { type with systemId := some value, broken := !closed }

/-- The public identifier and what follows it. -/
def readPublic (type : Doctype) (text : List Char) : Doctype :=
  match text.dropWhile isBlank with
  | '"' :: rest => finish '"' rest
  | '\'' :: rest => finish '\'' rest
  | _ => { type with broken := true }
where
  finish (quote : Char) (text : List Char) : Doctype :=
    let (value, closed, rest) := readIdentifier quote text
    if closed then readSystem { type with publicId := some value } rest
    else { type with publicId := some value, broken := true }

/-- A declaration, from the text between its keyword and its closing bracket. -/
def Doctype.read (text : List Char) : Doctype :=
  let text := text.dropWhile isBlank
  let name := (text.takeWhile (!isBlank ·)).map Char.toLower
  let rest := (text.dropWhile (!isBlank ·)).dropWhile isBlank
  let type : Doctype := { name := some (String.ofList (name.map fixNull)) }
  if name.isEmpty then { broken := true }
  else if rest.isEmpty then type
  else
    let keyword := (rest.take 6).map Char.toLower
    if keyword = "public".toList then readPublic type (rest.drop 6)
    else if keyword = "system".toList then readSystem type (rest.drop 6)
    else { type with broken := true }

/-- Starts of the public identifiers of old types that standards gave out. -/
def oldPublicIds : List String := [
  "-//ietf//dtd html 2.0 level 1//", "-//ietf//dtd html 2.0 level 2//",
  "-//ietf//dtd html 2.0 strict level 1//", "-//ietf//dtd html 2.0 strict level 2//",
  "-//ietf//dtd html 2.0 strict//", "-//ietf//dtd html 2.0//", "-//ietf//dtd html 2.1e//",
  "-//ietf//dtd html 3.0//", "-//ietf//dtd html 3.2 final//", "-//ietf//dtd html 3.2//",
  "-//ietf//dtd html 3//", "-//ietf//dtd html level 0//", "-//ietf//dtd html level 1//",
  "-//ietf//dtd html level 2//", "-//ietf//dtd html level 3//",
  "-//ietf//dtd html strict level 0//", "-//ietf//dtd html strict level 1//",
  "-//ietf//dtd html strict level 2//", "-//ietf//dtd html strict level 3//",
  "-//ietf//dtd html strict//", "-//ietf//dtd html//", "-//w3c//dtd html 3 1995-03-24//",
  "-//w3c//dtd html 3.2 draft//", "-//w3c//dtd html 3.2 final//", "-//w3c//dtd html 3.2//",
  "-//w3c//dtd html 3.2s draft//", "-//w3c//dtd html 4.0 frameset//",
  "-//w3c//dtd html 4.0 transitional//", "-//w3c//dtd html experimental 19960712//",
  "-//w3c//dtd html experimental 970421//", "-//w3c//dtd w3 html//", "-//w3o//dtd w3 html 3.0//"]

/-- Whether pages of a type follow the old rules. -/
def Doctype.isOld (type : Doctype) : Bool :=
  let lower := fun text : String => String.ofList (text.toList.map Char.toLower)
  let publicId := (type.publicId.map lower).getD ""
  let startsWith := fun lead : String => lead.toList.isPrefixOf publicId.toList
  type.broken || type.name != some "html" ||
    oldPublicIds.any startsWith ||
    publicId ∈ ["-//w3o//dtd w3 html strict 3.0//en//", "-/w3c/dtd html 4.0 transitional/en",
      "html"] ||
    (type.systemId.isNone &&
      (startsWith "-//w3c//dtd html 4.01 frameset//" ||
        startsWith "-//w3c//dtd html 4.01 transitional//"))

end WlanAdmin.Html
