import WlanAdmin.Proofs.Field.ScheduleText

/-!
# WlanAdmin.Proofs.Field.ScheduleLayout

Where the slots of a week stand in its text, and what is changed by setting them.

* `Slot`, `Slot.word`, `Slot.bit` : a slot of the week, and its place in the text.
* `isOn_put`, `isOn_foldl_put`    : one slot is set, and slots are set one after the other.
* `testBit_word`                  : a word bit by bit.
* `Layout`, `layout`              : the text has a bit for each slot.
* `changesBit_put`                : a slot that is set changes its own bit and no other.
* `set_layout`                    : all of this together.
-/

namespace WlanAdmin
namespace Schedule

/-! ## Slots -/

/-- A quarter of an hour of the week. -/
structure Slot where
  day : Fin 7
  quarter : Fin 96
  deriving DecidableEq

namespace Slot

/-- The word of the text that holds a slot: four words a day. -/
def word (slot : Slot) : Nat := 4 * slot.day + slot.quarter / 24

/-- The bit of its word that stands for a slot, the earliest being the lowest. -/
def bit (slot : Slot) : Nat := slot.quarter % 24

/-- The place of a slot among all slots of the week. -/
def place (slot : Slot) : Nat := 96 * slot.day + slot.quarter

theorem place_lt (slot : Slot) : slot.place < 672 := by
  have := slot.day.isLt
  have := slot.quarter.isLt
  unfold place
  omega

theorem word_lt (slot : Slot) : slot.word < words := by
  have := slot.day.isLt
  have := slot.quarter.isLt
  show 4 * (slot.day : Nat) + slot.quarter / 24 < 28
  omega

theorem bit_lt (slot : Slot) : slot.bit < 24 := Nat.mod_lt _ (by decide)

theorem place_eq (slot : Slot) : slot.place = 24 * slot.word + slot.bit := by
  unfold place word bit
  omega

theorem place_inj {slot other : Slot} : slot.place = other.place ↔ slot = other := by
  refine ⟨fun same => ?_, fun same => same ▸ rfl⟩
  obtain ⟨⟨day, _⟩, ⟨quarter, _⟩⟩ := slot
  obtain ⟨⟨day', _⟩, ⟨quarter', _⟩⟩ := other
  simp only [place] at same
  have days : day = day' := by omega
  have quarters : quarter = quarter' := by omega
  subst days quarters
  rfl

end Slot

/-- Sets slots one after the other. -/
def setAll? (schedule : Schedule) (calls : List (Slot × Bool)) : Option Schedule :=
  calls.foldlM (fun schedule call => schedule.set? call.1.day call.1.quarter call.2) schedule

/-! ## Setting -/

def isOn (schedule : Schedule) (slot : Slot) : Bool :=
  have := slot.place_lt
  schedule.slots[slot.place]

/-- Sets a slot, which is one of the week. -/
def put (schedule : Schedule) (call : Slot × Bool) : Schedule :=
  ⟨schedule.slots.set call.1.place call.2 call.1.place_lt⟩

theorem get?_slot (schedule : Schedule) (slot : Slot) :
    schedule.get? slot.day slot.quarter = some (schedule.isOn slot) :=
  dif_pos ⟨slot.day.isLt, slot.quarter.isLt⟩

theorem set?_slot (schedule : Schedule) (slot : Slot) (on : Bool) :
    schedule.set? slot.day slot.quarter on = some (schedule.put (slot, on)) :=
  dif_pos ⟨slot.day.isLt, slot.quarter.isLt⟩

theorem setAll?_eq (schedule : Schedule) (calls : List (Slot × Bool)) :
    schedule.setAll? calls = some (calls.foldl put schedule) := by
  induction calls generalizing schedule with
  | nil => rfl
  | cons call rest ih =>
    rw [setAll?, List.foldlM_cons, set?_slot]
    exact ih _

theorem isOn_put (schedule : Schedule) (slot other : Slot) (on : Bool) :
    (schedule.put (slot, on)).isOn other = if other = slot then on else schedule.isOn other := by
  simp only [isOn, put, Vector.getElem_set, Slot.place_inj, eq_comm]

/-- What all calls do to each slot: the last that sets it counts. -/
theorem isOn_foldl_put (schedule : Schedule) (calls : List (Slot × Bool)) (slot : Slot) :
    (calls.foldl put schedule).isOn slot =
      (calls.reverse.lookup slot).getD (schedule.isOn slot) := by
  induction calls generalizing schedule with
  | nil => rfl
  | cons call rest ih =>
    rw [List.foldl_cons, ih, isOn_put, List.reverse_cons, List.lookup_append]
    cases rest.reverse.lookup slot with
    -- a later call counts, whatever this one sets
    | some on => rfl
    | none =>
      rw [Option.none_or, Option.getD_none, List.lookup_cons]
      by_cases same : slot = call.1
      · simp [same]
      · simp [same, beq_eq_false_iff_ne.mpr same]

theorem put_comm (schedule : Schedule) {slot other : Slot} (apart : slot ≠ other) (on also : Bool) :
    (schedule.put (slot, on)).put (other, also) = (schedule.put (other, also)).put (slot, on) := by
  have places : slot.place ≠ other.place := fun same => apart (Slot.place_inj.mp same)
  exact congrArg mk (Vector.set_comm _ _ places)

/-! ## Words -/

theorem testBit_ofBits (bits : List Bool) (k : Nat) :
    (ofBits bits).testBit k = bits.getD k false := by
  induction bits generalizing k with
  | nil => simp [ofBits]
  | cons bit bits ih =>
    have small := bit.toNat_le
    cases k with
    | zero =>
      rw [ofBits, Nat.testBit_zero]
      cases bit <;> simp
    | succ k =>
      have half : (bit.toNat + 2 * ofBits bits) / 2 = ofBits bits := by omega
      rw [ofBits, Nat.testBit_succ, half, ih]
      rfl

theorem testBit_word (schedule : Schedule) (index k : Nat) :
    (schedule.word index).testBit k =
      if k < 24 then schedule.slots.toList.getD (24 * index + k) false else false := by
  rw [word, testBit_ofBits]
  simp only [List.getD_eq_getElem?_getD, List.getElem?_take, List.getElem?_drop]
  split <;> rfl

theorem testBit_word_slot (schedule : Schedule) (slot : Slot) :
    (schedule.word slot.word).testBit slot.bit = schedule.isOn slot := by
  rw [testBit_word, if_pos slot.bit_lt, ← slot.place_eq, isOn, List.getD_eq_getElem?_getD]
  simp [slot.place_lt]

theorem testBit_word_put (schedule : Schedule) (slot : Slot) (on : Bool) {index k : Nat}
    (away : ¬ (index = slot.word ∧ k = slot.bit)) :
    ((schedule.put (slot, on)).word index).testBit k = (schedule.word index).testBit k := by
  rw [testBit_word, testBit_word]
  by_cases small : k < 24
  -- no other place of the week is that far into the same word
  · have place : slot.place ≠ 24 * index + k := by
      have := slot.place_eq
      have := slot.bit_lt
      omega
    simp only [if_pos small, put, Vector.toList_set, List.getD_eq_getElem?_getD,
      List.getElem?_set_ne place]
  · rw [if_neg small, if_neg small]

theorem word_put (schedule : Schedule) (slot : Slot) (on : Bool) {index : Nat}
    (away : index ≠ slot.word) : (schedule.put (slot, on)).word index = schedule.word index :=
  Nat.eq_of_testBit_eq fun _ => testBit_word_put schedule slot on fun here => away here.1

/-! ## The text -/

theorem isWord_writeWord (n : Nat) : IsWord (writeWord n) n :=
  .numeral ((readBase_eq_some_iff (by decide) Nat.toDigits_ne_nil).mp
    (readBase_toDigits (by decide) (by decide) n))

def wordsOf (text : String) : List (List Char) := text.toList.splitOn ':'

theorem wordsOf_write (schedule : Schedule) : wordsOf schedule.write =
    (List.range words).map fun index => writeWord (schedule.word index) := by
  rw [wordsOf, write, String.toList_ofList]
  refine List.splitOn_intercalate ':' (fun part mem => ?_) (by simp [words])
  obtain ⟨index, -, rfl⟩ := List.mem_map.mp mem
  simpa [writeWord] using colon_not_mem_toDigits _

/-- The text of a schedule has a word for each quarter of a day, and in it a bit for each slot. -/
structure Layout (schedule : Schedule) (numbers : List Nat) : Prop where
  spelled : List.Forall₂ IsWord (wordsOf schedule.write) numbers
  count : numbers.length = 28
  fits : ∀ n ∈ numbers, n < 0x1000000
  bits : ∀ slot : Slot, ∃ n, numbers[slot.word]? = some n ∧
    schedule.get? slot.day slot.quarter = some (n.testBit slot.bit)

theorem layout (schedule : Schedule) : Layout schedule ((List.range words).map schedule.word) where
  spelled := by
    rw [wordsOf_write, List.forall₂_map_left_iff, List.forall₂_map_right_iff, List.forall₂_same]
    exact fun index _ => isWord_writeWord _
  count := by simp [words]
  fits := by
    intro n mem
    obtain ⟨index, inside, rfl⟩ := List.mem_map.mp mem
    exact word_lt schedule (List.mem_range.mp inside)
  bits slot := by
    refine ⟨schedule.word slot.word, ?_, ?_⟩
    · simp [slot.word_lt]
    · rw [get?_slot, testBit_word_slot]

/-- One text becomes another by a change of at most one bit of one word. -/
structure ChangesBit (text after : String) (word bit : Nat) (old new : Nat) : Prop where
  before : ∃ part, (wordsOf text)[word]? = some part ∧ IsWord part old
  replaced : ∃ part, wordsOf after = (wordsOf text).set word part ∧ IsWord part new
  others : ∀ other ≠ bit, new.testBit other = old.testBit other

theorem changesBit_put (schedule : Schedule) (slot : Slot) (on : Bool) :
    ChangesBit schedule.write (schedule.put (slot, on)).write slot.word slot.bit
      (schedule.word slot.word) ((schedule.put (slot, on)).word slot.word) where
  before := by
    refine ⟨_, ?_, isWord_writeWord _⟩
    rw [wordsOf_write]
    simp [slot.word_lt]
  replaced := by
    refine ⟨_, ?_, isWord_writeWord _⟩
    rw [wordsOf_write, wordsOf_write]
    refine List.ext_getElem (by simp) fun index inside _ => ?_
    rw [List.getElem_set]
    by_cases here : slot.word = index
    · simp [here]
    · simp [here, word_put schedule slot on (Ne.symm here)]
  others bit away := testBit_word_put schedule slot on fun here => away here.2

/-- The layout of a week: slots that are set one after the other, the bits of the text that stand
for them, and what one call changes. -/
theorem set_layout (schedule : Schedule) :
    (∀ calls : List (Slot × Bool), ∃ after, schedule.setAll? calls = some after ∧
      (∃ numbers, Layout after numbers) ∧
      ∀ slot : Slot, after.get? slot.day slot.quarter =
        (calls.reverse.lookup slot).or (schedule.get? slot.day slot.quarter)) ∧
    (∀ (slot : Slot) (on : Bool), ∃ after, schedule.set? slot.day slot.quarter on = some after ∧
      ∃ old new, ChangesBit schedule.write after.write slot.word slot.bit old new) ∧
    ∀ (slot other : Slot) (on also : Bool), slot ≠ other →
      (schedule.setAll? [(slot, on), (other, also)]).map write =
        (schedule.setAll? [(other, also), (slot, on)]).map write := by
  refine ⟨fun calls => ⟨_, setAll?_eq schedule calls, ⟨_, layout _⟩, fun slot => ?_⟩,
    fun slot on => ⟨_, set?_slot schedule slot on, _, _, changesBit_put schedule slot on⟩,
    fun slot other on also apart => ?_⟩
  · rw [get?_slot, get?_slot, isOn_foldl_put]
    cases calls.reverse.lookup slot <;> rfl
  · rw [setAll?_eq, setAll?_eq]
    exact congrArg (some ∘ write) (put_comm schedule apart on also)

theorem set_layout_two_slots :
    let early : Slot := ⟨0, 25⟩
    let late : Slot := ⟨6, 95⟩
    early ≠ late ∧ (off.setAll? [(early, true), (late, true)]).map write =
      (off.setAll? [(late, true), (early, true)]).map write := by
  intro early late
  have apart : early ≠ late := by decide
  exact ⟨apart, (set_layout off).2.2 early late true true apart⟩

end Schedule
end WlanAdmin
