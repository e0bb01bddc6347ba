import WlanAdmin.Xml.Scan

/-!
# WlanAdmin.Xml.Matched

Reading a document: its lexemes up to the first end tag that does not close the element that was
opened last. So whoever walks over the lexemes may rely on end tags, and meets a wrong one as the
end of an incomplete document.
-/

namespace WlanAdmin.Xml

/-- Keeps the lexemes before the first end tag that closes nothing, or something else than the last
name of `opened`. -/
def keepMatched (opened : List Bytes) : List Lexeme → Bool → Lexemes
  | [], complete => ⟨[], complete⟩
  | .startTag body :: rest, complete =>
    .cons (.startTag body) (keepMatched (tagName body :: opened) rest complete)
  | .endTag body :: rest, complete =>
    match opened with
    | [] => ⟨[], false⟩
    | name :: opened =>
      if endName body = name then .cons (.endTag body) (keepMatched opened rest complete)
      else ⟨[], false⟩
  | first :: rest, complete => .cons first (keepMatched opened rest complete)

/-- The octets of a byte order mark. -/
def byteOrderMark : Bytes := [0xEF, 0xBB, 0xBF]

/-- A document without the byte order mark it may start with. -/
def withoutMark (document : Bytes) : Bytes :=
  if byteOrderMark.isPrefixOf document then document.drop 3 else document

/-- The lexemes of a document, end tags matched. -/
def read (document : Bytes) : Lexemes :=
  let lexemes := scan (withoutMark document)
  keepMatched [] lexemes.all lexemes.complete

end WlanAdmin.Xml
