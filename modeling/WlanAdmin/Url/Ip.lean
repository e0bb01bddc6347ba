import WlanAdmin.Text.Digits

/-!
# WlanAdmin.Url.Ip

Network addresses as hosts. IPv4 addresses may be written with fewer than four numbers, and each
number in base ten, eight or sixteen; they are always shown as four decimal numbers. IPv6 addresses
are shown in lower case with the longest run of zero pieces left out.
-/

namespace WlanAdmin.Url

/-! ## IPv4 -/

/-- A part of an IPv4 address: `0x` starts base sixteen, another leading zero base eight. Nothing
after the lead is zero. -/
def readIpv4Number : List Char → Option Nat
  | [] => none
  | '0' :: 'x' :: digits | '0' :: 'X' :: digits => readBase 16 0 digits
  | '0' :: d :: digits => readBase 8 0 (d :: digits)
  | digits => readBase 10 0 digits

/-- The parts of a host between dots, less an empty last one. -/
def hostParts (host : List Char) : List (List Char) :=
  let parts := host.splitOn '.'
  if 1 < parts.length ∧ parts.getLast? = some [] then parts.dropLast else parts

/-- A host whose last part is a number is an IPv4 address, or nothing. -/
def endsInNumber (host : List Char) : Bool :=
  match (hostParts host).getLast? with
  | none => false
  | some last =>
    (!last.isEmpty && last.all Char.isDigit) || (readIpv4Number last).isSome

/-- Numbers that stand for one octet each, but for the last, which fills what is left. -/
def ipv4OfNumbers (numbers : List Nat) : Option Nat :=
  match numbers.getLast? with
  | none => none
  | some last =>
    let first := numbers.dropLast
    if 3 < first.length then none
    else if first.any (255 < ·) then none
    else if Nat.pow 256 (4 - first.length) ≤ last then none
    else some (first.foldr (fun n rest => n * 0x1000000 + rest / 256) 0 + last)

/-- The address that a host spells. -/
def readIpv4 (host : List Char) : Option UInt32 :=
  match (hostParts host).mapM readIpv4Number with
  | none => none
  | some numbers =>
    (ipv4OfNumbers numbers).map UInt32.ofNat

def writeIpv4 (address : UInt32) : List Char :=
  let n := address.toNat
  List.intercalate ['.']
    ([n / 0x1000000, n / 0x10000 % 256, n / 256 % 256, n % 256].map (Nat.toDigits 10))

/-! ## IPv6 -/

/-- One to four hexadecimal digits. -/
def readPiece (digits : List Char) : Option UInt16 :=
  if digits.isEmpty ∨ 4 < digits.length then none else (readBase 16 0 digits).map UInt16.ofNat

/-- A decimal octet of an IPv4 address inside an IPv6 one: no leading zeros. -/
def readOctet : List Char → Option Nat
  | [] => none
  | ['0'] => some 0
  | '0' :: _ => none
  | digits => (readBase 10 0 digits).bind fun n => if n < 256 then some n else none

/-- The two pieces that an IPv4 address at the end stands for. -/
def readTail (part : List Char) : Option (List UInt16) :=
  match (part.splitOn '.').mapM readOctet with
  | some [a, b, c, d] => some [UInt16.ofNat (256 * a + b), UInt16.ofNat (256 * c + d)]
  | _ => none

/-- Pieces between colons; the last may be an IPv4 address where `last` allows it. -/
def readPieces (last : Bool) : List (List Char) → Option (List UInt16)
  | [] => some []
  | [part] => if last && part.contains '.' then readTail part else (readPiece part).map ([·])
  | part :: rest => (readPiece part).bind fun piece => (readPieces last rest).map (piece :: ·)

/-- The pieces of one side of a double colon; an empty side has none. -/
def readSide (last : Bool) (side : List Char) : Option (List UInt16) :=
  if side.isEmpty then some [] else readPieces last (side.splitOn ':')

/-- What stands before and after the first double colon. -/
def splitDoubleColon : List Char → List Char → Option (List Char × List Char)
  | _, [] => none
  | seen, ':' :: ':' :: rest => some (seen.reverse, rest)
  | seen, c :: rest => splitDoubleColon (c :: seen) rest

/-- The eight pieces of an address. A double colon stands for at least one zero piece. -/
def readIpv6 (text : List Char) : Option (Vector UInt16 8) :=
  let pieces :=
    match splitDoubleColon [] text with
    | none => readSide true text
    | some (before, after) =>
      match readSide false before, readSide true after with
      | some first, some second =>
        if 7 < first.length + second.length then none
        else some (first ++ List.replicate (8 - first.length - second.length) 0 ++ second)
      | _, _ => none
  match pieces with
  | some pieces => if h : pieces.toArray.size = 8 then some ⟨pieces.toArray, h⟩ else none
  | none => none

/-- The length of the run of zero pieces at the start. -/
def zeroRun (pieces : List UInt16) : Nat := (pieces.takeWhile (· == 0)).length

/-- Start and length of the first longest run of zero pieces. -/
def longestRun : (index : Nat) → List UInt16 → Nat × Nat
  | _, [] => (0, 0)
  | index, piece :: rest =>
    let later := longestRun (index + 1) rest
    let here := zeroRun (piece :: rest)
    if 0 < here ∧ later.2 ≤ here then (index, here) else later

def writePieces (pieces : List UInt16) : List Char :=
  List.intercalate [':'] (pieces.map fun piece => Nat.toDigits 16 piece.toNat)

/-- An address, without brackets. A single zero piece is not left out. -/
def writeIpv6 (address : Vector UInt16 8) : List Char :=
  let pieces := address.toList
  let (start, length) := longestRun 0 pieces
  if length < 2 then writePieces pieces
  else writePieces (pieces.take start) ++ [':', ':'] ++ writePieces (pieces.drop (start + length))

end WlanAdmin.Url
