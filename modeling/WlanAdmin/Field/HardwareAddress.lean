import WlanAdmin.Field.Codec
import WlanAdmin.Text.Bytes

/-!
# WlanAdmin.Field.HardwareAddress

48-bit hardware addresses. Read as six pairs of hexadecimal digits of either case, joined by colons
or by hyphens; written in lower case with colons.
-/

namespace WlanAdmin

structure HardwareAddress where
  octets : Vector UInt8 6
  deriving DecidableEq, Repr

namespace HardwareAddress

/-- All octets zero. -/
def zero : HardwareAddress := ⟨.replicate 6 0⟩

instance : Inhabited HardwareAddress := ⟨zero⟩

/-- Two hexadecimal digits. -/
def readOctet? : Bytes → Option UInt8
  | [a, b] =>
    if isHexByte a && isHexByte b then
      some (UInt8.ofNat (16 * hexByteValue a + hexByteValue b))
    else none
  | _ => none

/-- Reads `count` octets from the parts between separators, and no more. -/
def readOctets : (count : Nat) → List Bytes → Except AddressFault (Vector UInt8 count)
  | 0, [] => .ok #v[]
  | 0, _ :: _ => .error .tooMany
  | _ + 1, [] => .error .tooFew
  | count + 1, part :: rest =>
    match readOctet? part with
    | none => .error .octet
    | some octet =>
      match readOctets count rest with
      | .error fault => .error fault
      | .ok octets => .ok ((#v[octet] ++ octets).cast (Nat.add_comm 1 count))

/-- The octets of an address; the third one of the text decides the separator. -/
def readBytes (text : Bytes) : Except AddressFault HardwareAddress :=
  if text.length ≠ 17 then .error .length
  else match (text[2]? : Option UInt8) with
    | some 0x3A => (readOctets 6 (text.splitOn 0x3A)).map .mk
    | some 0x2D => (readOctets 6 (text.splitOn 0x2D)).map .mk
    | _ => .error .separator

def read (text : String) : Except FormatError HardwareAddress :=
  match readBytes (utf8 text) with
  | .ok address => .ok address
  | .error fault => .error (.badAddress text fault)

/-- Two lower case digits. -/
def writeOctet (octet : UInt8) : List Char :=
  [Nat.digitChar (octet.toNat / 16), Nat.digitChar (octet.toNat % 16)]

def write (address : HardwareAddress) : String :=
  String.ofList (List.intercalate [':'] (address.octets.toList.map writeOctet))

def codec : Codec HardwareAddress := ⟨read, write⟩

end HardwareAddress
end WlanAdmin
