import WlanAdmin.Domain.MappingTable

/-!
# WlanAdmin.Domain.Mapping

Domain names that look alike are the same: letters lose their case and compatibility forms become
the plain ones before anything else is done with a name.
-/

namespace WlanAdmin.Domain

def mappingTable : CodeTable MappingRule := .ofRows MappingTable.rows

/-- What a character becomes; `none` where it may not occur. -/
def mapChar (c : Char) : Option (List Char) :=
  match mappingTable.find? c.toNat with
  | none => none
  | some range =>
    match range.value with
    | .keep => some [c]
    | .shift target => some [Char.ofNat (target + (c.toNat - range.first))]
    | .alternate =>
      if (c.toNat - range.first) % 2 = 0 then some [Char.ofNat (c.toNat + 1)] else some [c]
    | .become chars => some chars

/-- Whether a character stays as it is. -/
def isKept (c : Char) : Bool := mapChar c == some [c]

end WlanAdmin.Domain
