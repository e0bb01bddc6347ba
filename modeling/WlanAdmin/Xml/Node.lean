import WlanAdmin.Xml.Attribute
import WlanAdmin.Xml.Matched

/-!
# WlanAdmin.Xml.Node

A document as a tree, for readers that want its elements rather than its octets. Comments and
instructions leave no trace, and adjacent text, references and CDATA sections are one run of text.
An element whose end was never met, because the document ends or is broken before it, is kept with
what was read of it and marked as not closed, so that a reader meets faults in document order.
-/

namespace WlanAdmin.Xml

inductive Node where
  /-- A run of text; `none` if it holds a reference that stands for nothing. -/
  | text (content : Option Bytes)
  | doctype
  | element (body : Bytes) (children : List Node) (closed : Bool)

/-- The nodes of one level, and whether the level was closed by its end tag. -/
structure Level where
  nodes : List Node
  closed : Bool

/-- A level that ends without an end tag. -/
def Level.broken : Level := ⟨[], false⟩

/-- A level just before its end tag. -/
def Level.ended : Level := ⟨[], true⟩

def Level.cons (node : Node) (level : Level) : Level := ⟨node :: level.nodes, level.closed⟩

/-- Puts text in front of a level; it joins the text that stands there. -/
def Level.prependText (content : Option Bytes) (level : Level) : Level :=
  match level.nodes with
  | .text more :: rest =>
    ⟨.text (content.bind fun a => more.map (a ++ ·)) :: rest, level.closed⟩
  | _ => level.cons (.text content)

/-- The text of a CDATA section. -/
def cdataContent (body : Bytes) : Bytes := (body.drop 8).take (body.length - 10)

/-- What stands to the right of a place in a document: the rest of its level, and of the levels
around it from the inside out. -/
structure Surroundings where
  level : Level
  outer : List Level

/-- Puts a lexeme in front. -/
def Surroundings.prepend (lexeme : Lexeme) (s : Surroundings) : Surroundings :=
  match lexeme with
  | .text content => { s with level := s.level.prependText (some content) }
  | .cdata body => { s with level := s.level.prependText (some (cdataContent body)) }
  | .reference name => { s with level := s.level.prependText (resolve name) }
  | .comment _ | .instruction _ => s
  | .doctype _ => { s with level := s.level.cons .doctype }
  | .emptyTag body => { s with level := s.level.cons (.element body [] true) }
  | .endTag _ => ⟨.ended, s.level :: s.outer⟩
  | .startTag body =>
    let element := Node.element body s.level.nodes s.level.closed
    match s.outer with
    | [] => ⟨Level.broken.cons element, []⟩
    | parent :: outer => ⟨parent.cons element, outer⟩

/-- The nodes at the top of a document. -/
def topNodes (document : Bytes) : List Node :=
  ((read document).all.foldr Surroundings.prepend ⟨.broken, []⟩).level.nodes

end WlanAdmin.Xml
