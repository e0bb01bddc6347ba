import WlanAdmin.Html.Doctype

/-!
# WlanAdmin.Html.Lexer

Cutting a page into tokens. How the text is read depends on the element it stands in, so the token
after the next one can only be read once the next has been placed.

A script ends at its end tag, but inside a comment that the script opens, a second script tag hides
the next end tag.
-/

namespace WlanAdmin.Html

/-- Whether a name stands at the start of a text, in any case, with nothing of a name after it. -/
def startsWithName (name text : List Char) : Bool :=
  (text.take name.length).map Char.toLower == name &&
    ((text.drop name.length).head?).any fun c => isBlank c || c == '/' || c == '>'

/-- Whether the end tag of an element starts at a text, with its bracket taken off. -/
def startsEndTag (element : List Char) : List Char → Bool
  | '/' :: rest => startsWithName element rest
  | _ => false

/-- The text before the end tag of an element, and what follows; `seen` is kept backwards. -/
def rawText (element : List Char) : (seen : List Char) → List Char → List Char × List Char
  | seen, [] => (seen.reverse, [])
  | seen, c :: rest =>
    if c == '<' && startsEndTag element rest then (seen.reverse, c :: rest)
    else rawText element (c :: seen) rest

/-- Where in a script its text stands; the number of hyphens just before it, up to two, tells
whether a bracket closes the comment. -/
inductive ScriptPlace where
  | plain
  | comment (hyphens : Nat)
  /-- In a script tag inside a comment. -/
  | nested (hyphens : Nat)

/-- The place after one more hyphen. -/
def ScriptPlace.hyphen : ScriptPlace → ScriptPlace
  | .plain => .plain
  | .comment n => .comment (min 2 (n + 1))
  | .nested n => .nested (min 2 (n + 1))

/-- The place after a closing bracket. -/
def ScriptPlace.bracket : ScriptPlace → ScriptPlace
  | .plain => .plain
  | .comment n => if n = 2 then .plain else .comment 0
  | .nested n => if n = 2 then .plain else .nested 0

/-- The place after any other character. -/
def ScriptPlace.other : ScriptPlace → ScriptPlace
  | .plain => .plain
  | .comment _ => .comment 0
  | .nested _ => .nested 0

/-- The place after an opening bracket, by what follows it. -/
def ScriptPlace.opening (place : ScriptPlace) (rest : List Char) : ScriptPlace :=
  match place with
  | .plain => .plain
  | .comment _ => if startsWithName "script".toList rest then .nested 0 else .comment 0
  | .nested _ => if startsEndTag "script".toList rest then .comment 0 else .nested 0

/-- Whether the end tag of a script ends it. -/
def ScriptPlace.mayEnd : ScriptPlace → Bool
  | .nested _ => false
  | _ => true

/-- The text of a script, and what follows; `seen` is kept backwards. -/
def scriptText : ScriptPlace → (seen : List Char) → List Char → List Char × List Char
  | .plain, seen, '<' :: '!' :: '-' :: '-' :: rest =>
    scriptText (.comment 2) ("--!<".toList ++ seen) rest
  | _, seen, [] => (seen.reverse, [])
  | place, seen, c :: rest =>
    if c = '<' then
      if place.mayEnd && startsEndTag "script".toList rest then (seen.reverse, c :: rest)
      else scriptText (place.opening rest) (c :: seen) rest
    else if c = '-' then scriptText place.hyphen (c :: seen) rest
    else if c = '>' then scriptText place.bracket (c :: seen) rest
    else scriptText place.other (c :: seen) rest

/-- What follows a comment. -/
def closeComment : List Char → List Char
  | '-' :: '-' :: '>' :: rest => rest
  | '-' :: '-' :: '!' :: '>' :: rest => rest
  | _ :: rest => closeComment rest
  | [] => []

/-- What follows a comment that may be empty and lack hyphens. -/
def skipComment : List Char → List Char
  | '>' :: rest => rest
  | '-' :: '>' :: rest => rest
  | text => closeComment text

/-- The text of a verbatim section, and what follows; `seen` is kept backwards. -/
def verbatim : (seen : List Char) → List Char → List Char × List Char
  | seen, ']' :: ']' :: '>' :: rest => (seen.reverse, rest)
  | seen, c :: rest => verbatim (c :: seen) rest
  | seen, [] => (seen.reverse, [])

/-- A token, if any, and what is left. -/
abbrev Lexed := Option Token × List Char

/-- Text as one token; visible if any of it is. -/
def textToken (chars : List Char) : Option Token :=
  if chars.isEmpty then none
  else some (.text (if chars.all isBlank then .blank else .visible)
    (String.ofList (chars.map fixNull)))

/-- What is none of the known declarations counts as a comment up to the next bracket. -/
def skipBogus (text : List Char) : Lexed := (some .comment, (text.dropWhile (· != '>')).tail)

/-- A declaration of a page's type, after its keyword. -/
def readDoctype (text : List Char) : Lexed :=
  let inside := text.takeWhile (· != '>')
  let type := Doctype.read inside
  match text.dropWhile (· != '>') with
  | [] => (some (.doctype { type with broken := true }), [])
  | _ :: rest => (some (.doctype type), rest)

/-- What starts with `<!`. Verbatim sections are known in elements of other vocabularies only. -/
def readDeclaration (foreign : Bool) (text : List Char) : Lexed :=
  match text with
  | '-' :: '-' :: rest => (some .comment, skipComment rest)
  | _ =>
    if (text.take 7).map Char.toLower = "doctype".toList then readDoctype (text.drop 7)
    else if foreign ∧ text.take 7 = "[CDATA[".toList then
      let (chars, rest) := verbatim [] (text.drop 7)
      (textToken chars, rest)
    else skipBogus text

def readOpenTag (text : List Char) : Lexed :=
  match readTag text with
  | some (tag, rest) => (some (.open tag), rest)
  | none => (none, [])

def readCloseTag (text : List Char) : Lexed :=
  match readTag text with
  | some (tag, rest) => (some (.close tag.name), rest)
  | none => (none, [])

/-- What follows an opening bracket. -/
def readMarkup (foreign : Bool) (text : List Char) : Lexed :=
  match text with
  | '!' :: rest => readDeclaration foreign rest
  | '?' :: _ => skipBogus text
  | ['/'] => (some (.text .visible "</"), [])
  | '/' :: '>' :: rest => (none, rest)
  | '/' :: c :: rest => if c.isAlpha then readCloseTag (c :: rest) else skipBogus (c :: rest)
  | c :: _ => if c.isAlpha then readOpenTag text else (some (.text .visible "<"), text)
  | [] => (some (.text .visible "<"), [])

/-- A run of text of one kind. -/
def readRun (c : Char) (rest : List Char) : Lexed :=
  let kind := TextKind.of c
  let inRun := fun d : Char => d != '<' && d != '&' && TextKind.of d == kind
  (some (.text kind (String.ofList (c :: rest.takeWhile inRun))), rest.dropWhile inRun)

/-- The next token of tags, text and references. -/
def nextMarkup (foreign : Bool) : List Char → Lexed
  | [] => (some .endOfPage, [])
  | '<' :: rest => readMarkup foreign rest
  | '&' :: rest =>
    match readReference false rest with
    | some (chars, length) => (textToken chars, rest.drop length)
    | none => (some (.text .visible "&"), rest)
  | c :: rest => readRun c rest

/-- The next token, and what is left of the page. `foreign` tells whether it stands in an element
of another vocabulary. -/
def nextToken (foreign : Bool) (reading : Reading) (text : List Char) : Lexed :=
  let raw := fun (chars : List Char) (rest : List Char) =>
    if chars.isEmpty then nextMarkup foreign rest
    else (some (.text .visible (String.ofList (chars.map fixNull))), rest)
  match reading with
  | .markup => nextMarkup foreign text
  | .plainReferences element =>
    let (chars, rest) := rawText element.toList [] text
    raw (resolve false chars) rest
  | .raw element =>
    let (chars, rest) := rawText element.toList [] text
    raw chars rest
  | .script =>
    let (chars, rest) := scriptText .plain [] text
    raw chars rest
  | .plaintext => raw text []

end WlanAdmin.Html
