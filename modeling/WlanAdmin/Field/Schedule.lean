import WlanAdmin.Field.Codec
import WlanAdmin.Text.Digits

/-!
# WlanAdmin.Field.Schedule

When a WLAN is on: quarter-hour slots over a week, from Sunday 00:00 UTC. On the wire a week is 28
hexadecimal words with colons between them, four words a day, each word 24 slots with the earliest
in its lowest bit.
-/

namespace WlanAdmin

/-- A bit for each slot, day after day. -/
structure Schedule where
  slots : Vector Bool 672
  deriving DecidableEq

namespace Schedule

def days : Nat := 7
def slotsPerDay : Nat := 96
def wordBits : Nat := 24
def words : Nat := 28

/-- Every slot off. -/
def off : Schedule := ⟨.replicate 672 false⟩

/-- Every slot on. -/
def alwaysOn : Schedule := ⟨.replicate 672 true⟩

instance : Inhabited Schedule := ⟨off⟩

/-- The slot of a day; `none` outside the week. -/
def get? (schedule : Schedule) (day slot : Nat) : Option Bool :=
  if h : day < 7 ∧ slot < 96 then some (schedule.slots.get ⟨96 * day + slot, by omega⟩)
  else none

/-- Switches one slot; `none` outside the week. -/
def set? (schedule : Schedule) (day slot : Nat) (on : Bool) : Option Schedule :=
  if h : day < 7 ∧ slot < 96 then
    some ⟨schedule.slots.set (96 * day + slot) on (by omega)⟩
  else none

/-- The slots of each day. -/
def dayRows (schedule : Schedule) : List (List Bool) :=
  (List.range days).map fun day => (schedule.slots.toList.drop (96 * day)).take 96

/-- The number whose bits are given from the lowest. -/
def ofBits : List Bool → Nat
  | [] => 0
  | bit :: rest => bit.toNat + 2 * ofBits rest

/-- The lowest bits of a number. -/
def toBits : Nat → Nat → List Bool
  | 0, _ => []
  | count + 1, n => (n % 2 == 1) :: toBits count (n / 2)

/-- One word of the week. -/
def word (schedule : Schedule) (index : Nat) : Nat :=
  ofBits ((schedule.slots.toList.drop (24 * index)).take 24)

/-- A word as `0x` and its digits. -/
def writeWord (word : Nat) : List Char := '0' :: 'x' :: Nat.toDigits 16 word

def write (schedule : Schedule) : String :=
  String.ofList (List.intercalate [':'] ((List.range words).map fun index =>
    writeWord (schedule.word index)))

/-- `0x` and one or more digits. A number of more than 64 bits is no word at all, one of more than
24 bits is a word with too many bits. -/
def readWord : List Char → Except ScheduleFault Nat
  | '0' :: 'x' :: c :: rest =>
    match readBase 16 0 (c :: rest) with
    | none => .error .invalidWord
    | some n =>
      if 0x10000000000000000 ≤ n then .error .invalidWord
      else if 0x1000000 ≤ n then .error .tooManyBits
      else .ok n
  | _ => .error .invalidWord

/-- The first `count - 1` parts between separators, and the remainder as the last part. -/
def splitMost (separator : Char) : Nat → List Char → List (List Char)
  | 0, _ => []
  | 1, chars => [chars]
  | count + 2, chars =>
    match chars.dropWhile (· != separator) with
    | [] => [chars]
    | _ :: rest =>
      chars.takeWhile (· != separator) :: splitMost separator (count + 1) rest

/-- The slots of a list of words. -/
def readWords : List (List Char) → Except ScheduleFault (List Bool)
  | [] => .ok []
  | part :: rest => do
    let n ← readWord part
    let slots ← readWords rest
    return toBits wordBits n ++ slots

/-- A text with further colons keeps them in its last word, which is then invalid. -/
def read (text : String) : Except FormatError Schedule :=
  let parts := splitMost ':' words text.toList
  if parts.length < words then .error (.badSchedule .notEnoughWords)
  else match readWords parts with
    | .error fault => .error (.badSchedule fault)
    | .ok slots => .ok ⟨.ofFn fun i => slots.getD i false⟩

def codec : Codec Schedule := ⟨read, write⟩

end Schedule
end WlanAdmin
