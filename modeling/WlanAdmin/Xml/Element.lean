import WlanAdmin.Xml.Reference

/-!
# WlanAdmin.Xml.Element

Writing elements: attributes in their order, values between double quotes, and the short form for
an element without content.
-/

namespace WlanAdmin.Xml

/-- One written attribute. -/
def writeAttribute (escaping : Escaping) (attr : String × String) : Bytes :=
  0x20 :: utf8 attr.1 ++ [0x3D, 0x22] ++ escaping.value (utf8 attr.2) ++ [0x22]

/-- A tag between its angle brackets. -/
def writeTag (escaping : Escaping) (name : String) (attrs : List (String × String)) : Bytes :=
  utf8 name ++ attrs.flatMap (writeAttribute escaping)

/-- An element around content, or the short form if there is none. -/
def writeElement (name : String) (attrs : List (String × String)) (content : Bytes) : Bytes :=
  let tag := writeTag .doubleQuote name attrs
  if content.isEmpty then 0x3C :: tag ++ [0x2F, 0x3E]
  else 0x3C :: tag ++ [0x3E] ++ content ++ [0x3C, 0x2F] ++ utf8 name ++ [0x3E]

end WlanAdmin.Xml
