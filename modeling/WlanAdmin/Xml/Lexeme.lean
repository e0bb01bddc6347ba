import WlanAdmin.Text.Bytes

/-!
# WlanAdmin.Xml.Lexeme

The pieces of an XML document: text, references and markup. A lexeme keeps the octets it was read
from, so a document is the concatenation of its lexemes' sources. Names are not checked.
-/

namespace WlanAdmin.Xml

/-- Space, tab, carriage return and line feed. -/
def isBlank (b : UInt8) : Bool := b == 0x20 || b == 0x09 || b == 0x0D || b == 0x0A

/-- One piece of a document. Markup keeps what stands between its angle brackets, less the slash of
an empty or an end tag. -/
inductive Lexeme where
  | text (content : Bytes)
  /-- `&name;` in content. -/
  | reference (name : Bytes)
  | cdata (body : Bytes)
  | comment (body : Bytes)
  | doctype (body : Bytes)
  /-- A processing instruction or the XML declaration. -/
  | instruction (body : Bytes)
  | startTag (body : Bytes)
  | emptyTag (body : Bytes)
  | endTag (body : Bytes)
  deriving DecidableEq, Repr

/-- The octets of a lexeme. -/
def Lexeme.source : Lexeme → Bytes
  | .text content => content
  | .reference name => 0x26 :: name ++ [0x3B]
  | .cdata body | .comment body | .doctype body | .instruction body | .startTag body =>
    0x3C :: body ++ [0x3E]
  | .emptyTag body => 0x3C :: body ++ [0x2F, 0x3E]
  | .endTag body => 0x3C :: 0x2F :: body ++ [0x3E]

/-- The octets of a run of lexemes. -/
def sources (lexemes : List Lexeme) : Bytes := lexemes.flatMap Lexeme.source

/-- The XML declaration is an instruction named `xml`. -/
def isDeclaration (body : Bytes) : Bool :=
  match body with
  | 0x3F :: 0x78 :: 0x6D :: 0x6C :: b :: rest => isBlank b || (b == 0x3F && rest.isEmpty)
  | _ => false

/-- The name of a tag: all up to the first blank. -/
def tagName (body : Bytes) : Bytes := body.takeWhile fun b => !isBlank b

/-- What follows the name of a tag. -/
def tagRest (body : Bytes) : Bytes := body.dropWhile fun b => !isBlank b

/-- The name an end tag closes: blanks after it are no part of it. -/
def endName (body : Bytes) : Bytes :=
  if body.all isBlank then body else (body.reverse.dropWhile isBlank).reverse

/-- A name without its prefix, which ends at the first colon. -/
def localName (name : Bytes) : Bytes :=
  match name.dropWhile (· != 0x3A) with
  | [] => name
  | _ :: rest => rest

end WlanAdmin.Xml
