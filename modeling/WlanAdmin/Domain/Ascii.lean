import WlanAdmin.Domain.Joiner
import WlanAdmin.Domain.Mapping
import WlanAdmin.Domain.Punycode

/-!
# WlanAdmin.Domain.Ascii

The ASCII form of domain names, which is what a network knows them by. A name in ASCII only loses
its case; any other is mapped and composed, its labels are checked, and those that are not ASCII
are encoded.
-/

namespace WlanAdmin.Domain

/-- ASCII characters that a domain name cannot hold. -/
def isForbidden (c : Char) : Bool :=
  c.toNat ≤ 0x20 || c.toNat == 0x7F || "%#/:<>?@[\\]^|".toList.contains c

def isAscii (text : List Char) : Bool := text.all fun c => c.toNat < 0x80

/-- What starts an encoded label. -/
def encodedLead : List Char := "xn--".toList

def isEncoded (label : List Char) : Bool := encodedLead.isPrefixOf (label.map Char.toLower)

/-- Whether a label that is not ASCII may stand in a name. -/
def isSound (label : List Char) : Bool :=
  !(label.head?.any isMark) && label.all isKept && joinersFit [] label

/-- The label that an encoded one stands for: one that is not ASCII, and that nothing would have
changed before it was encoded. -/
def decodeLabel (label : List Char) : Option (List Char) :=
  (decodePunycode (label.drop encodedLead.length)).filter fun decoded =>
    !isAscii decoded && composed decoded == decoded && !isEncoded decoded

/-- A label of a mapped name, decoded and checked. -/
def readLabel (label : List Char) : Option (List Char) :=
  if isEncoded label then (decodeLabel label).filter isSound
  else if isAscii label then some label
  else if isSound label then some label
  else none

/-- The ASCII form of a label. -/
def writeLabel (label : List Char) : List Char :=
  if isAscii label then label else encodedLead ++ encodePunycode label

/-- The labels of a name, mapped and composed. -/
def readLabels (name : List Char) : Option (List (List Char)) :=
  match name.mapM mapChar with
  | none => none
  | some mapped => ((composed mapped.flatten).splitOn '.').mapM readLabel

/-- The ASCII form of a name; `none` where it is no domain name. -/
def toAscii (name : List Char) : Option (List Char) :=
  if isAscii name && !(name.splitOn '.').any isEncoded then
    if name.any isForbidden then none else some (name.map Char.toLower)
  else
    match readLabels name with
    | none => none
    | some labels =>
      if labels.any (·.any isForbidden) then none
      else if labels.any (·.any runsLeft) && !labels.all keepsDirection then none
      else some (['.'].intercalate (labels.map writeLabel))

end WlanAdmin.Domain
