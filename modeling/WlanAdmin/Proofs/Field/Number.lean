import WlanAdmin.Field.Series
import WlanAdmin.Proofs.Text.Fault

/-!
# WlanAdmin.Proofs.Field.Number

Numbers in fields: the counts of a series and the seconds of an instant, read as integers of a range
whose faults are kept together with the text.

* `readNumber_ok_iff`, `readNumber_error_iff`       : numbers of any range.
* `readCount64_eq`, `readCount32_eq`, `Instant.read_eq` : the same for counts and instants.
* `ReadsNumbers`, `numbers_read`                    : what is read of every text, and which error
  comes of the others.
-/

namespace WlanAdmin

section Reading

variable (what : String) {range : IntegerRange} {text : List Char}

theorem readNumber_ok_iff {value : Int} :
    readNumber what range (String.ofList text) = .ok value ↔ IsInteger range text value := by
  rw [readNumber, ← IntegerRange.read_ok_iff]
  cases range.read (String.ofList text) <;> simp [Except.mapError]

theorem readNumber_error_iff {error : FormatError} :
    readNumber what range (String.ofList text) = .error error ↔
      ∃ fault, IsRefused range text fault ∧
        error = .badNumber what (String.ofList text) fault := by
  simp only [readNumber, ← IntegerRange.read_error_iff]
  cases range.read (String.ofList text) <;> simp [Except.mapError, eq_comm]

end Reading

/-! ## Counts and instants -/

namespace Series

theorem toNat_toUInt64 {n : Int} (h : IntegerRange.unsigned64.Contains n) :
    ((UInt64.ofNat n.toNat).toNat : Int) = n := by
  have low : 0 ≤ n := h.1
  have high : n ≤ (0xFFFFFFFFFFFFFFFF : Nat) := h.2
  rw [UInt64.toNat_ofNat_of_lt' (by rw [UInt64.size]; omega)]
  omega

theorem toNat_toUInt32 {n : Int} (h : IntegerRange.unsigned32.Contains n) :
    ((UInt32.ofNat n.toNat).toNat : Int) = n := by
  have low : 0 ≤ n := h.1
  have high : n ≤ (0xFFFFFFFF : Nat) := h.2
  rw [UInt32.toNat_ofNat_of_lt' (by rw [UInt32.size]; omega)]
  omega

theorem readCount64_eq (element : List Char) :
    (readCount64 element).map (fun n => (n.toNat : Int)) =
      readNumber "byte count" .unsigned64 (String.ofList element) := by
  rw [readCount64]
  cases read : readNumber "byte count" .unsigned64 (String.ofList element) with
  | error error => rfl
  | ok value => exact congrArg Except.ok (toNat_toUInt64 ((readNumber_ok_iff _).mp read).contains)

theorem readCount32_eq (element : List Char) :
    (readCount32 element).map (fun n => (n.toNat : Int)) =
      readNumber "signal count" .unsigned32 (String.ofList element) := by
  rw [readCount32]
  cases read : readNumber "signal count" .unsigned32 (String.ofList element) with
  | error error => rfl
  | ok value => exact congrArg Except.ok (toNat_toUInt32 ((readNumber_ok_iff _).mp read).contains)

end Series

namespace Instant

theorem read_eq (text : String) :
    (read text).map (·.seconds) = (do
      let value ← readNumber "timestamp" .signed64 text
      if -8334601228800 ≤ value ∧ value ≤ 8210266876799 then .ok value
      else .error (.instantOutOfRange value)) := by
  rw [read]
  cases readNumber "timestamp" .signed64 text with
  | error error => rfl
  | ok value =>
    show (ofSeconds value).map _ = if _ then _ else _
    rw [ofSeconds]
    split <;> rfl

theorem read_ok_iff {text : List Char} {value : Int} :
    (read (String.ofList text)).map (·.seconds) = .ok value ↔
      IsInteger .signed64 text value ∧ -8334601228800 ≤ value ∧ value ≤ 8210266876799 := by
  rw [read_eq, ← readNumber_ok_iff "timestamp"]
  cases readNumber "timestamp" .signed64 (String.ofList text) with
  | error error => exact ⟨nofun, nofun⟩
  | ok found =>
    show (if _ then _ else _) = _ ↔ _
    grind

theorem read_error_iff {text : List Char} {error : FormatError} :
    read (String.ofList text) = .error error ↔
      (∃ fault, IsRefused .signed64 text fault ∧
        error = .badNumber "timestamp" (String.ofList text) fault) ∨
      ∃ value, IsInteger .signed64 text value ∧
        ¬ (-8334601228800 ≤ value ∧ value ≤ 8210266876799) ∧ error = .instantOutOfRange value := by
  rw [← map_eq_error_iff (g := (·.seconds)), read_eq, ← readNumber_error_iff]
  simp only [← readNumber_ok_iff "timestamp"]
  cases readNumber "timestamp" .signed64 (String.ofList text) with
  | error other =>
    show Except.error other = Except.error error ↔ _
    simp
  | ok found =>
    show (if _ then _ else _) = _ ↔ _
    grind

theorem contained (instant : Instant) : IntegerRange.signed64.Contains instant.seconds := by
  have low := instant.first_le
  have high := instant.le_last
  show -((0x8000000000000000 : Nat) : Int) ≤ _ ∧ _ ≤ ((0x7FFFFFFFFFFFFFFF : Nat) : Int)
  omega

theorem codec_lawful : codec.Lawful := by
  intro instant
  show read instant.write = .ok instant
  rw [read, write, readNumber, IntegerRange.read_writeInteger instant.contained]
  exact dif_pos ⟨instant.first_le, instant.le_last⟩

end Instant

/-! ## All texts -/

/-- A reader of numbers: it takes the texts of the integers of a range, and gives back any other
text with its fault. -/
structure ReadsNumbers {α : Type} (what : String) (range : IntegerRange)
    (read : List Char → Except FormatError α) (number : α → Int) : Prop where
  ok_iff : ∀ text value, (read text).map number = .ok value ↔ IsInteger range text value
  error_iff : ∀ text error, read text = .error error ↔
    ∃ fault, IsRefused range text fault ∧ error = .badNumber what (String.ofList text) fault

theorem readsNumbers_of_eq {α : Type} {what : String} {range : IntegerRange}
    {read : List Char → Except FormatError α} {number : α → Int}
    (same : ∀ text, (read text).map number = readNumber what range (String.ofList text)) :
    ReadsNumbers what range read number where
  ok_iff text value := by rw [same, readNumber_ok_iff]
  error_iff text error := by rw [← map_eq_error_iff, same, readNumber_error_iff]

/-- The numbers of a range are numerals with any zeros in front, with a plus sign or, where there
are negative numbers, a minus sign. Any other text is given back with its fault: there is nothing in
it, or a character that is no digit comes before the number leaves the range, or the number leaves
the range before any such character. Counts and instants are read so; an instant is then looked up
in the calendar, and any that is written is read back. -/
theorem numbers_read :
    (∀ what range, ReadsNumbers what range
      (fun text => readNumber what range (String.ofList text)) id) ∧
    ReadsNumbers "byte count" .unsigned64 Series.readCount64 (fun n => n.toNat) ∧
    ReadsNumbers "signal count" .unsigned32 Series.readCount32 (fun n => n.toNat) ∧
    (∀ text value, (Instant.read (String.ofList text)).map (·.seconds) = .ok value ↔
      IsInteger .signed64 text value ∧ -8334601228800 ≤ value ∧ value ≤ 8210266876799) ∧
    (∀ text error, Instant.read (String.ofList text) = .error error ↔
      (∃ fault, IsRefused .signed64 text fault ∧
        error = .badNumber "timestamp" (String.ofList text) fault) ∨
      ∃ value, IsInteger .signed64 text value ∧
        ¬ (-8334601228800 ≤ value ∧ value ≤ 8210266876799) ∧ error = .instantOutOfRange value) ∧
    Instant.codec.Lawful :=
  ⟨fun _ _ => readsNumbers_of_eq fun text => by cases readNumber _ _ _ <;> rfl,
    readsNumbers_of_eq Series.readCount64_eq, readsNumbers_of_eq Series.readCount32_eq,
    fun _ _ => Instant.read_ok_iff, fun _ _ => Instant.read_error_iff, Instant.codec_lawful⟩

end WlanAdmin
