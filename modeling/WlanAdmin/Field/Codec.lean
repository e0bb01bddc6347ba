import WlanAdmin.Text.Integer
import WlanAdmin.Text.Quoted

/-!
# WlanAdmin.Field.Codec

Values that the controller writes as text in its own ways. A `Codec` reads a text into a value and
writes a value as text; `FormatError` says why a text was not read.
-/

namespace WlanAdmin

/-- Why a text is no hardware address. -/
inductive AddressFault where
  | length
  | separator
  | octet
  | tooFew
  | tooMany
  deriving DecidableEq, Repr

/-- The wording of a fault. -/
def AddressFault.message : AddressFault → String
  | .length => "expected six two-digit octets"
  | .separator => "expected ':' or '-' separators"
  | .octet => "octets must be two hex digits"
  | .tooFew => "too few octets"
  | .tooMany => "too many octets"

/-- Why a text is no schedule. -/
inductive ScheduleFault where
  | notEnoughWords
  | invalidWord
  | tooManyBits
  deriving DecidableEq, Repr

/-- The wording of a fault. -/
def ScheduleFault.message : ScheduleFault → String
  | .notEnoughWords => "not enough words"
  | .invalidWord => "invalid word"
  | .tooManyBits => "word has too many bits"

/-- A value that cannot be read from its text, or built at all. -/
inductive FormatError where
  /-- The text is none of a fixed set of words. -/
  | unknownWord (kind text : String)
  | badNumber (what text : String) (fault : IntegerFault)
  | badAddress (text : String) (fault : AddressFault)
  | instantOutOfRange (seconds : Int)
  /-- A byte series ends half-way through a sample. -/
  | oddElements
  /-- A series does not divide into samples of `arity` elements. -/
  | incompleteSample (arity : Nat)
  | badSchedule (fault : ScheduleFault)
  /-- Four queue numbers that are no priority class. -/
  | unknownPriority (voice video data background : Int)
  deriving DecidableEq, Repr

/-- The wording of an error. -/
def FormatError.message : FormatError → String
  | .unknownWord kind text => "invalid " ++ kind ++ ": " ++ quoted text
  | .badNumber what text fault =>
    "invalid " ++ what ++ " number " ++ quoted text ++ ": " ++ fault.message
  | .badAddress text fault =>
    "invalid hardware address " ++ quoted text ++ ": " ++ fault.message
  | .instantOutOfRange seconds =>
    "timestamp value " ++ writeInteger seconds ++ " out of range"
  | .oddElements => "invalid time series: odd number of elements"
  | .incompleteSample arity =>
    "invalid time series: number of elements not divisible by " ++ writeInteger arity
  | .badSchedule fault => "invalid schedule: " ++ fault.message
  | .unknownPriority voice video data background =>
    "queue priority (" ++ writeInteger voice ++ ", " ++ writeInteger video ++ ", " ++
      writeInteger data ++ ", " ++ writeInteger background ++ ") is neither high nor low"

/-- Reads an integer of a range. `what` names the number in errors. -/
def readNumber (what : String) (range : IntegerRange) (text : String) : Except FormatError Int :=
  (range.read text).mapError (.badNumber what text)

/-- A way to write values as text. -/
structure Codec (α : Type) where
  read : String → Except FormatError α
  write : α → String

/-- What is written is read back. -/
def Codec.Lawful {α : Type} (codec : Codec α) : Prop :=
  ∀ value, codec.read (codec.write value) = .ok value

theorem Codec.Lawful.inj {α : Type} {codec : Codec α} (lawful : codec.Lawful) {a b : α}
    (same : codec.write a = codec.write b) : a = b := by
  have read := lawful a
  rw [same] at read
  exact Except.ok.inj (read.symm.trans (lawful b))

/-- A fixed set of words. `kind` names the set in errors. -/
def Codec.words {α : Type} (kind : String) (all : List α) (word : α → String) : Codec α where
  read text :=
    match all.find? fun value => word value == text with
    | some value => .ok value
    | none => .error (.unknownWord kind text)
  write := word

/-- The words of a set are read back if they differ and every value is listed. -/
theorem Codec.words_lawful {α : Type} {kind : String} {all : List α} {word : α → String}
    (complete : ∀ value, value ∈ all) (distinct : ∀ a b, word a = word b → a = b) :
    (Codec.words kind all word).Lawful := by
  intro value
  have found : ∃ other, all.find? (fun v => word v == word value) = some other := by
    rw [← Option.isSome_iff_exists, List.find?_isSome]
    exact ⟨value, complete value, by simp⟩
  obtain ⟨other, h⟩ := found
  have same : word other = word value := by simpa using List.find?_some h
  simp [Codec.words, h, distinct _ _ same]

end WlanAdmin
