/-!
# WlanAdmin.Html.Token

The pieces of a page: tags, runs of text, and declarations of its type.
-/

namespace WlanAdmin.Html

/-- Runs of text that the place they stand in treats alike. -/
inductive TextKind where
  /-- Blanks, tabs, line ends and form feeds. -/
  | blank
  /-- U+0000. -/
  | null
  | visible
  deriving DecidableEq, Repr

/-- The blanks of pages. -/
def isBlank (c : Char) : Bool :=
  c == ' ' || c == '\t' || c == '\n' || c == '\r' || c == '\x0C'

def TextKind.of (c : Char) : TextKind :=
  if isBlank c then .blank else if c.toNat = 0 then .null else .visible

/-- Names and values, each name once. -/
abbrev Attributes := List (String × String)

/-- The value of an attribute. -/
def Attributes.get? (attributes : Attributes) (name : String) : Option String :=
  attributes.lookup name

structure Tag where
  name : String
  attributes : Attributes := []
  selfClosing : Bool := false
  deriving DecidableEq, Repr

/-- A declaration of the type of a page. -/
structure Doctype where
  name : Option String := none
  publicId : Option String := none
  systemId : Option String := none
  /-- Whether it is broken off or malformed. -/
  broken : Bool := false
  deriving DecidableEq, Repr

inductive Token where
  | open (tag : Tag)
  | close (name : String)
  | text (kind : TextKind) (chars : String)
  | comment
  | doctype (type : Doctype)
  | endOfPage
  deriving DecidableEq, Repr

/-- How the text after a tag is read, up to the end tag of its element. -/
inductive Reading where
  /-- Tags, text and references. -/
  | markup
  /-- Text and references. -/
  | plainReferences (element : String)
  /-- Text alone. -/
  | raw (element : String)
  /-- The text of a script, which may hide end tags in comments. -/
  | script
  /-- Text up to the end of the page. -/
  | plaintext
  deriving DecidableEq, Repr

end WlanAdmin.Html
