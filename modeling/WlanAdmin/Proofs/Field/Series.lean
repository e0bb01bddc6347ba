import WlanAdmin.Proofs.Field.Number

/-!
# WlanAdmin.Proofs.Field.Series

Series of samples as tables: which runs of elements are read as samples, in which order their
elements are tried, and how samples are written.

* `Column`, `fields`     : the elements of a run, each with the column that it stands in.
* `Holds`, `Faulty`      : what an element says in its column, or what is wrong with it there.
* `readBytePairs_eq`, `readSignalQuads_eq` : samples are read field by field.
* `Follows`              : how a codec of samples with some columns reads and writes.
* `codecs_follow`        : byte counters and signal counts.
-/

namespace WlanAdmin
namespace Series

/-! ## Columns -/

/-- What the elements of a sample are. -/
inductive Column where
  | time
  | byteCount
  | signalCount
  deriving DecidableEq

namespace Column

def range : Column → IntegerRange
  | time => .signed64
  | byteCount => .unsigned64
  | signalCount => .unsigned32

/-- The name of a column in errors. -/
def what : Column → String
  | time => "timestamp"
  | byteCount => "byte count"
  | signalCount => "signal count"

end Column

/-- An element and its column. -/
abbrev Field := Column × List Char

/-- The integer that an element says: one of the column's range, and as a time one of the
calendar. -/
def Holds (field : Field) (value : Int) : Prop :=
  IsInteger field.1.range field.2 value ∧
    (field.1 = .time → -8334601228800 ≤ value ∧ value ≤ 8210266876799)

/-- What is wrong with an element that says nothing. -/
inductive Faulty : Field → FormatError → Prop where
  | badNumber {column : Column} {element : List Char} {fault : IntegerFault} :
      (∀ value, ¬ IsInteger column.range element value) →
      column.range.read (String.ofList element) = .error fault →
      Faulty (column, element) (.badNumber column.what (String.ofList element) fault)
  | outOfRange {element : List Char} {value : Int} : IsInteger .signed64 element value →
      ¬ (-8334601228800 ≤ value ∧ value ≤ 8210266876799) →
      Faulty (.time, element) (.instantOutOfRange value)

/-- What an element of a column is read as. -/
def readField : Field → Except FormatError Int
  | (.time, element) => (Instant.read (String.ofList element)).map (·.seconds)
  | (.byteCount, element) => (readCount64 element).map fun n => (n.toNat : Int)
  | (.signalCount, element) => (readCount32 element).map fun n => (n.toNat : Int)

/-- An element is read as an integer of its column's range; a time is then looked up in the
calendar. -/
theorem readField_eq (column : Column) (element : List Char) :
    readField (column, element) = match column.range.read (String.ofList element) with
      | .error fault => .error (.badNumber column.what (String.ofList element) fault)
      | .ok value =>
        if column = .time → -8334601228800 ≤ value ∧ value ≤ 8210266876799 then .ok value
        else .error (.instantOutOfRange value) := by
  cases column with
  | time =>
    show (Instant.read _).map _ = _
    rw [Instant.read_eq, readNumber, Column.range]
    cases IntegerRange.signed64.read (String.ofList element) with
    | error fault => rfl
    | ok value =>
      simp only [forall_const]
      rfl
  | byteCount =>
    show (readCount64 element).map _ = _
    rw [readCount64_eq, readNumber, Column.range]
    cases IntegerRange.unsigned64.read (String.ofList element) <;> rfl
  | signalCount =>
    show (readCount32 element).map _ = _
    rw [readCount32_eq, readNumber, Column.range]
    cases IntegerRange.unsigned32.read (String.ofList element) <;> rfl

theorem readField_ok_iff {field : Field} {value : Int} :
    readField field = .ok value ↔ Holds field value := by
  obtain ⟨column, element⟩ := field
  rw [readField_eq, Holds, ← IntegerRange.read_ok_iff]
  cases column.range.read (String.ofList element) with
  | error fault => exact ⟨nofun, nofun⟩
  | ok n => grind

theorem readField_error_iff {field : Field} {error : FormatError} :
    readField field = .error error ↔ Faulty field error := by
  obtain ⟨column, element⟩ := field
  rw [readField_eq]
  constructor
  · intro rejected
    cases read : column.range.read (String.ofList element) with
    | error fault =>
      rw [read] at rejected
      cases rejected
      refine .badNumber (fun value spelled => ?_) read
      rw [IntegerRange.read_ok_iff.mpr spelled] at read
      cases read
    | ok value =>
      simp only [read] at rejected
      split at rejected
      · cases rejected
      · rename_i holds
        obtain ⟨rfl, outside⟩ := Classical.not_imp.mp holds
        cases rejected
        exact .outOfRange (IntegerRange.read_ok_iff.mp read) outside
  · rintro (⟨-, read⟩ | ⟨spelled, outside⟩)
    · rw [read]
    · have read : Column.time.range.read (String.ofList element) = .ok _ :=
        IntegerRange.read_ok_iff.mpr spelled
      rw [read]
      exact if_neg fun inside => outside (inside rfl)

/-! ## Rows -/

/-- The elements of a run, each with its column. -/
def fields (columns : List Column) (elements : List (List Char)) : List Field :=
  (List.replicate (elements.length / columns.length) columns).flatten.zip elements

/-- The columns of byte counters. -/
def byteColumns : List Column := [.time, .byteCount]

/-- The columns of signal counts. -/
def signalColumns : List Column := [.time, .signalCount, .signalCount, .signalCount]

/-- The numbers of a byte counter. -/
def byteNumbers (sample : ByteSample) : List Int := [sample.time.seconds, sample.bytes.toNat]

/-- The numbers of signal counts. -/
def signalNumbers (sample : SignalSample) : List Int :=
  [sample.time.seconds, sample.excellent.toNat, sample.moderate.toNat, sample.poor.toNat]

theorem fields_append (columns : List Column) (sample rest : List (List Char))
    (nonempty : 0 < columns.length) (row : sample.length = columns.length) :
    fields columns (sample ++ rest) = columns.zip sample ++ fields columns rest := by
  have rows : (sample ++ rest).length / columns.length = rest.length / columns.length + 1 := by
    rw [List.length_append, row, Nat.add_comm, Nat.add_div_right _ nonempty]
  rw [fields, rows, List.replicate_succ, List.flatten_cons, List.zip_append row.symm]
  rfl

/-- Samples are read field by field. -/
theorem readBytePairs_eq (elements : List (List Char)) (whole : 2 ∣ elements.length) :
    (readBytePairs elements).map (·.flatMap byteNumbers) =
      (fields byteColumns elements).mapM readField := by
  fun_induction readBytePairs elements with
  | case1 => rfl
  | case2 => simp at whole
  | case3 time bytes rest ih =>
    have row : fields byteColumns (time :: bytes :: rest) =
        (.time, time) :: (.byteCount, bytes) :: fields byteColumns rest :=
      fields_append byteColumns [time, bytes] rest (by decide) rfl
    rw [row, List.mapM_cons, List.mapM_cons, readField, readField,
      ← ih ((Nat.dvd_add_left (Nat.dvd_refl 2)).mp whole)]
    cases Instant.read (String.ofList time) with
    | error => rfl
    | ok =>
      cases readCount64 bytes with
      | error => rfl
      | ok => cases readBytePairs rest <;> rfl

theorem readSignalQuads_eq (elements : List (List Char)) (whole : 4 ∣ elements.length) :
    (readSignalQuads elements).map (·.flatMap signalNumbers) =
      (fields signalColumns elements).mapM readField := by
  fun_induction readSignalQuads elements with
  | case1 => rfl
  | case2 time excellent moderate poor rest ih =>
    have row : fields signalColumns (time :: excellent :: moderate :: poor :: rest) =
        (.time, time) :: (.signalCount, excellent) :: (.signalCount, moderate) ::
          (.signalCount, poor) :: fields signalColumns rest :=
      fields_append signalColumns [time, excellent, moderate, poor] rest (by decide) rfl
    rw [row, List.mapM_cons, List.mapM_cons, List.mapM_cons, List.mapM_cons, readField, readField,
      readField, readField, ← ih ((Nat.dvd_add_left (Nat.dvd_refl 4)).mp whole)]
    cases Instant.read (String.ofList time) with
    | error => rfl
    | ok =>
      cases readCount32 excellent with
      | error => rfl
      | ok =>
        cases readCount32 moderate with
        | error => rfl
        | ok =>
          cases readCount32 poor with
          | error => rfl
          | ok => cases readSignalQuads rest <;> rfl
  | case3 elements empty short =>
    match elements with
    | [] => exact absurd rfl empty
    | [_] | [_, _] | [_, _, _] => simp at whole
    | _ :: _ :: _ :: _ :: _ => exact absurd rfl (short _ _ _ _ _)

/-! ## Texts -/

/-- A text less one comma at its end. -/
def run (text : String) : List Char :=
  if text.toList.getLast? = some ',' then text.toList.dropLast else text.toList

/-- What stands between the commas of a run. -/
def tokens (text : String) : List (List Char) := (run text).splitOn ','

theorem elements_of_empty {text : String} (h : run text = []) : elements text = [] := by
  unfold elements
  unfold run at h
  simp only [h, List.isEmpty_nil, if_true]

theorem elements_of_nonempty {text : String} (h : run text ≠ []) :
    elements text = tokens text := by
  unfold elements
  rw [tokens]
  unfold run at h ⊢
  simp only [List.isEmpty_iff, if_neg h]

/-- Numbers with commas between them do not end in a comma. -/
theorem getLast?_intercalate {parts : List (List Char)} (nonempty : parts ≠ [])
    (each : ∀ part ∈ parts, part ≠ [] ∧ ',' ∉ part) :
    [','].intercalate parts ≠ [] ∧ ([','].intercalate parts).getLast? ≠ some ',' := by
  induction parts with
  | nil => exact absurd rfl nonempty
  | cons part rest ih =>
    obtain ⟨⟨some, absent⟩, each⟩ := List.forall_mem_cons.mp each
    cases rest with
    | nil =>
      rw [List.intercalate_singleton]
      exact ⟨some, fun last => absent (List.mem_of_getLast? last)⟩
    | cons second others =>
      obtain ⟨more, last⟩ := ih nofun each
      rw [List.intercalate_cons_cons]
      refine ⟨by simp, ?_⟩
      rwa [List.getLast?_append_of_ne_nil _ more]

theorem writeInteger_element (n : Int) :
    (writeInteger n).toList ≠ [] ∧ ',' ∉ (writeInteger n).toList := by
  constructor
  · cases n with
    | ofNat n =>
      rw [writeInteger, String.toList_ofList]
      exact Nat.toDigits_ne_nil
    | negSucc n =>
      rw [writeInteger, String.toList_ofList]
      exact List.cons_ne_nil _ _
  · intro comma
    rcases writeInteger_plain n ',' comma with digit | minus
    · cases digit
    · cases minus

/-- Written numbers are told apart again. -/
theorem elements_writeElements (numbers : List Int) :
    elements (writeElements numbers) = numbers.map fun n => (writeInteger n).toList := by
  by_cases empty : numbers = []
  · rw [empty]
    rfl
  · let parts := numbers.map fun n => (writeInteger n).toList
    have nonempty : parts ≠ [] := by simpa [parts] using empty
    have each : ∀ part ∈ parts, part ≠ [] ∧ ',' ∉ part := by
      intro part mem
      obtain ⟨n, -, rfl⟩ := List.mem_map.mp mem
      exact writeInteger_element n
    obtain ⟨some, last⟩ := getLast?_intercalate nonempty each
    have same : run (writeElements numbers) = [','].intercalate parts := by
      rw [run, writeElements, String.toList_ofList, if_neg last]
    rw [elements_of_nonempty (same ▸ some), tokens, same]
    exact List.splitOn_intercalate ',' (fun part mem => (each part mem).2) nonempty

/-! ## Codecs -/

/-- How a codec of samples makes use of columns. -/
structure Tabular {σ : Type} (codec : Codec (List σ)) (columns : List Column)
    (numbers : σ → List Int) (incomplete : FormatError) : Prop where
  some_column : 0 < columns.length
  in_range : ∀ sample, List.Forall₂
    (fun column n => Holds (column, (writeInteger n).toList) n) columns (numbers sample)
  injective : Function.Injective numbers
  written : ∀ samples, codec.write samples = writeElements (samples.flatMap numbers)
  whole : ∀ text, columns.length ∣ (elements text).length →
    (codec.read text).map (·.flatMap numbers) = (fields columns (elements text)).mapM readField
  broken : ∀ text, ¬ columns.length ∣ (elements text).length →
    codec.read text = .error incomplete
  apart : ∀ field, ¬ Faulty field incomplete

/-- How a codec of samples reads and writes. -/
structure Follows {σ : Type} (codec : Codec (List σ)) (columns : List Column)
    (numbers : σ → List Int) (incomplete : FormatError) : Prop where
  lawful : codec.Lawful
  /-- A text of no more than one comma is the empty series. -/
  empty : ∀ text, run text = [] → codec.read text = .ok []
  /-- The number of elements is looked at before any element. -/
  incomplete_iff : ∀ text, run text ≠ [] →
    (codec.read text = .error incomplete ↔ ¬ columns.length ∣ (tokens text).length)
  accepted_iff : ∀ text, run text ≠ [] → columns.length ∣ (tokens text).length →
    ((∃ samples, codec.read text = .ok samples) ↔
      ∀ field ∈ fields columns (tokens text), ∃ value, Holds field value)
  /-- The samples have the numbers that the elements say, in order. -/
  values : ∀ text samples, run text ≠ [] → codec.read text = .ok samples →
    List.Forall₂ Holds (fields columns (tokens text)) (samples.flatMap numbers)
  /-- The first element that says nothing decides the error. -/
  rejected_iff : ∀ text error, run text ≠ [] → columns.length ∣ (tokens text).length →
    (codec.read text = .error error ↔
      FirstFault (fun field => ∃ value, Holds field value) Faulty (fields columns (tokens text))
        error)
  again : ∀ text samples, codec.read text = .ok samples →
    codec.read (codec.write samples) = .ok samples

/-- Rows of one length can be told apart in a table. -/
theorem flatMap_injective {α β : Type} {f : α → List β} {size : Nat} (positive : 0 < size)
    (length : ∀ a, (f a).length = size) (injective : Function.Injective f) :
    Function.Injective fun l : List α => l.flatMap f := by
  intro l l' same
  have lengths : l.length = l'.length :=
    Nat.eq_of_mul_eq_mul_right positive (by simpa [length] using congrArg List.length same)
  induction l generalizing l' with
  | nil => exact (List.length_eq_zero_iff.mp lengths.symm).symm
  | cons a rest ih =>
    obtain ⟨b, rest', rfl⟩ := List.exists_cons_of_length_eq_add_one lengths.symm
    obtain ⟨first, others⟩ := List.append_inj same ((length a).trans (length b).symm)
    rw [injective first, ih others (Nat.succ.inj lengths)]

theorem readField_written {columns : List Column} {numbers : List Int}
    (each : List.Forall₂ (fun column n => Holds (column, (writeInteger n).toList) n) columns
      numbers) :
    List.Forall₂ (fun field n => readField field = .ok n)
      (columns.zip (numbers.map fun n => (writeInteger n).toList)) numbers := by
  induction each with
  | nil => exact .nil
  | cons holds _ ih => exact .cons (readField_ok_iff.mpr holds) ih

namespace Tabular

variable {σ : Type} {codec : Codec (List σ)} {columns : List Column} {numbers : σ → List Int}
  {incomplete : FormatError}

theorem fields_written (table : Tabular codec columns numbers incomplete) (samples : List σ) :
    columns.length ∣ (samples.flatMap numbers).length ∧
      List.Forall₂ (fun field n => readField field = .ok n)
        (fields columns ((samples.flatMap numbers).map fun n => (writeInteger n).toList))
        (samples.flatMap numbers) := by
  induction samples with
  | nil =>
    refine ⟨Nat.dvd_zero _, ?_⟩
    simp [fields]
  | cons sample rest ih =>
    have each := table.in_range sample
    have row : (numbers sample).length = columns.length := each.length_eq.symm
    rw [List.flatMap_cons, List.map_append,
      fields_append _ _ _ table.some_column (by simpa using row)]
    constructor
    · rw [List.length_append, row]
      exact (Nat.dvd_add_right (Nat.dvd_refl _)).mpr ih.1
    · exact List.rel_append (readField_written each) ih.2

/-- A codec with columns reads the numbers of its fields. -/
theorem read_eq (table : Tabular codec columns numbers incomplete) {text : String}
    (whole : columns.length ∣ (elements text).length) {samples : List σ} :
    codec.read text = .ok samples ↔
      (fields columns (elements text)).mapM readField = .ok (samples.flatMap numbers) := by
  rw [← table.whole text whole, map_eq_ok_iff]
  constructor
  · exact fun read => ⟨samples, read, rfl⟩
  · rintro ⟨others, read, same⟩
    rw [read, flatMap_injective table.some_column (fun s => (table.in_range s).length_eq.symm)
      table.injective same]

theorem lawful (table : Tabular codec columns numbers incomplete) : codec.Lawful := by
  intro samples
  obtain ⟨whole, read⟩ := table.fields_written samples
  have split := elements_writeElements (samples.flatMap numbers)
  rw [← table.written samples] at split
  rw [table.read_eq (by rw [split, List.length_map]; exact whole), split]
  exact mapM_eq_ok_iff.mpr read

theorem read_error_iff (table : Tabular codec columns numbers incomplete) {text : String}
    (whole : columns.length ∣ (elements text).length) {error : FormatError} :
    codec.read text = .error error ↔
      FirstFault (fun field => ∃ value, Holds field value) Faulty (fields columns (elements text))
        error := by
  rw [← map_eq_error_iff, table.whole text whole, mapM_eq_error_iff]
  simp only [readField_ok_iff, readField_error_iff]

/-- Columns say all of a codec. -/
theorem follows (table : Tabular codec columns numbers incomplete) :
    Follows codec columns numbers incomplete where
  lawful := table.lawful
  empty text none := by
    rw [table.read_eq (by rw [elements_of_empty none]; exact Nat.dvd_zero _),
      elements_of_empty none]
    simp [fields, pure, Except.pure]
  incomplete_iff text some := by
    rw [← elements_of_nonempty some]
    refine ⟨fun rejected whole => ?_, table.broken text⟩
    obtain ⟨_, field, _, -, -, faulty⟩ := (table.read_error_iff whole).mp rejected
    exact table.apart field faulty
  accepted_iff text some whole := by
    rw [← elements_of_nonempty some] at whole ⊢
    simp only [← readField_ok_iff, ← exists_mapM_eq_ok_iff]
    rw [← table.whole text whole]
    simp only [map_eq_ok_iff]
    exact ⟨fun ⟨samples, read⟩ => ⟨_, samples, read, rfl⟩,
      fun ⟨_, samples, read, _⟩ => ⟨samples, read⟩⟩
  values text samples some accepted := by
    rw [← elements_of_nonempty some]
    have whole : columns.length ∣ (elements text).length := by
      refine Classical.byContradiction fun broken => ?_
      rw [table.broken text broken] at accepted
      cases accepted
    have read := mapM_eq_ok_iff.mp ((table.read_eq whole).mp accepted)
    exact read.imp fun _ _ h => readField_ok_iff.mp h
  rejected_iff text error some whole := by
    rw [← elements_of_nonempty some] at whole ⊢
    exact table.read_error_iff whole
  again _ samples _ := table.lawful samples

end Tabular

/-! ## Byte counters and signal counts -/

theorem holds_written {column : Column} {n : Int} (contains : column.range.Contains n)
    (time : column = .time → -8334601228800 ≤ n ∧ n ≤ 8210266876799) :
    Holds (column, (writeInteger n).toList) n := by
  refine ⟨IntegerRange.read_ok_iff.mp ?_, time⟩
  rw [String.ofList_toList]
  exact IntegerRange.read_writeInteger contains

theorem holds_time (time : Instant) :
    Holds (.time, (writeInteger time.seconds).toList) time.seconds :=
  holds_written time.contained fun _ => ⟨time.first_le, time.le_last⟩

theorem holds_byteCount (count : UInt64) :
    Holds (.byteCount, (writeInteger count.toNat).toList) count.toNat := by
  have := count.toNat_lt
  refine holds_written ?_ nofun
  show -((0 : Nat) : Int) ≤ _ ∧ _ ≤ ((0xFFFFFFFFFFFFFFFF : Nat) : Int)
  omega

theorem holds_signalCount (count : UInt32) :
    Holds (.signalCount, (writeInteger count.toNat).toList) count.toNat := by
  have := count.toNat_lt
  refine holds_written ?_ nofun
  show -((0 : Nat) : Int) ≤ _ ∧ _ ≤ ((0xFFFFFFFF : Nat) : Int)
  omega

theorem bytes_tabular : Tabular bytesCodec byteColumns byteNumbers .oddElements where
  some_column := by decide
  in_range sample := .cons (holds_time sample.time) (.cons (holds_byteCount sample.bytes) .nil)
  injective := by
    rintro ⟨⟨time, _, _⟩, bytes⟩ ⟨⟨time', _, _⟩, bytes'⟩ same
    simp only [byteNumbers, List.cons.injEq, Int.ofNat_inj, UInt64.toNat_inj] at same
    obtain ⟨rfl, rfl, -⟩ := same
    rfl
  written _ := rfl
  whole text whole := by
    have even : ¬ (elements text).length % 2 ≠ 0 := fun odd => odd (Nat.mod_eq_zero_of_dvd whole)
    show (readBytes text).map _ = _
    rw [readBytes, if_neg even]
    exact readBytePairs_eq _ whole
  broken text broken :=
    if_pos fun even => broken (Nat.dvd_of_mod_eq_zero even)
  apart _ := nofun

theorem signals_tabular :
    Tabular signalsCodec signalColumns signalNumbers (.incompleteSample 4) where
  some_column := by decide
  in_range sample := .cons (holds_time sample.time) (.cons (holds_signalCount sample.excellent)
    (.cons (holds_signalCount sample.moderate) (.cons (holds_signalCount sample.poor) .nil)))
  injective := by
    rintro ⟨⟨time, _, _⟩, _, _, _⟩ ⟨⟨time', _, _⟩, _, _, _⟩ same
    simp only [signalNumbers, List.cons.injEq, Int.ofNat_inj, UInt32.toNat_inj] at same
    obtain ⟨rfl, rfl, rfl, rfl, -⟩ := same
    rfl
  written _ := rfl
  whole text whole := by
    have fours : ¬ (elements text).length % 4 ≠ 0 := fun rest => rest (Nat.mod_eq_zero_of_dvd whole)
    show (readSignals text).map _ = _
    rw [readSignals, if_neg fours]
    exact readSignalQuads_eq _ whole
  broken text broken :=
    if_pos fun fours => broken (Nat.dvd_of_mod_eq_zero fours)
  apart _ := nofun

/-- Byte counters are read and written in two columns, signal counts in four. -/
theorem codecs_follow :
    Follows bytesCodec byteColumns byteNumbers .oddElements ∧
      Follows signalsCodec signalColumns signalNumbers (.incompleteSample 4) :=
  ⟨bytes_tabular.follows, signals_tabular.follows⟩

/-- A time is looked up in the calendar before the count behind it is read. -/
example : readBytes "8210266876800,x," = .error (.instantOutOfRange 8210266876800) := by rfl

end Series
end WlanAdmin
