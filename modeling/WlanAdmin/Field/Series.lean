import WlanAdmin.Field.Instant

/-!
# WlanAdmin.Field.Series

Samples over time, written as one run of decimal numbers with commas between them and nothing else
between samples. A comma may end the run. The number of elements is checked before any is read;
within a sample elements are read from the left.
-/

namespace WlanAdmin

/-- A byte counter at an instant. -/
structure ByteSample where
  time : Instant
  bytes : UInt64
  deriving DecidableEq, Repr

/-- How many stations had which signal quality at an instant. -/
structure SignalSample where
  time : Instant
  excellent : UInt32
  moderate : UInt32
  poor : UInt32
  deriving DecidableEq, Repr

namespace Series

/-- The elements of a run, less one comma at its end; none in an empty run. -/
def elements (text : String) : List (List Char) :=
  let chars := text.toList
  let run := if chars.getLast? = some ',' then chars.dropLast else chars
  if run.isEmpty then [] else run.splitOn ','

/-- An unsigned number of at most 64 bits. -/
def readCount64 (element : List Char) : Except FormatError UInt64 :=
  (readNumber "byte count" .unsigned64 (String.ofList element)).map fun n => UInt64.ofNat n.toNat

/-- An unsigned number of at most 32 bits. -/
def readCount32 (element : List Char) : Except FormatError UInt32 :=
  (readNumber "signal count" .unsigned32 (String.ofList element)).map fun n => UInt32.ofNat n.toNat

/-- Samples of two elements. -/
def readBytePairs : List (List Char) → Except FormatError (List ByteSample)
  | [] => .ok []
  | [_] => .error .oddElements
  | time :: bytes :: rest => do
    let time ← Instant.read (String.ofList time)
    let bytes ← readCount64 bytes
    let samples ← readBytePairs rest
    return ⟨time, bytes⟩ :: samples

/-- Samples of four elements. -/
def readSignalQuads : List (List Char) → Except FormatError (List SignalSample)
  | [] => .ok []
  | time :: excellent :: moderate :: poor :: rest => do
    let time ← Instant.read (String.ofList time)
    let excellent ← readCount32 excellent
    let moderate ← readCount32 moderate
    let poor ← readCount32 poor
    let samples ← readSignalQuads rest
    return ⟨time, excellent, moderate, poor⟩ :: samples
  | _ => .error (.incompleteSample 4)

def readBytes (text : String) : Except FormatError (List ByteSample) :=
  let run := elements text
  if run.length % 2 ≠ 0 then .error .oddElements else readBytePairs run

def readSignals (text : String) : Except FormatError (List SignalSample) :=
  let run := elements text
  if run.length % 4 ≠ 0 then .error (.incompleteSample 4) else readSignalQuads run

/-- Numbers with commas between them. -/
def writeElements (elements : List Int) : String :=
  String.ofList (List.intercalate [','] (elements.map fun n => (writeInteger n).toList))

def writeBytes (samples : List ByteSample) : String :=
  writeElements (samples.flatMap fun s => [s.time.seconds, s.bytes.toNat])

def writeSignals (samples : List SignalSample) : String :=
  writeElements (samples.flatMap fun s =>
    [s.time.seconds, s.excellent.toNat, s.moderate.toNat, s.poor.toNat])

def bytesCodec : Codec (List ByteSample) := ⟨readBytes, writeBytes⟩

def signalsCodec : Codec (List SignalSample) := ⟨readSignals, writeSignals⟩

end Series
end WlanAdmin
