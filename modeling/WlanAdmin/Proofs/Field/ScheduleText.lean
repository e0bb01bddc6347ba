import WlanAdmin.Proofs.Field.Schedule
import WlanAdmin.Proofs.Text.InTurn
import WlanAdmin.Proofs.Text.Numeral

/-!
# WlanAdmin.Proofs.Field.ScheduleText

Which texts are schedules, how they are written again, and what is wrong with all others.

* `IsWord`, `Fits`, `Faulty` : words as a grammar, and what can be wrong with one.
* `Cut`                      : the 28 parts of a text, the last of which keeps surplus colons.
* `readWord_ok_iff`, `readWord_error_iff` : a word alone.
* `cut_iff`                  : a text with enough colons has one cut, which is what is read.
* `write_of_cut`             : a schedule that has been read is written word by word, tidied up.
* `read_text`                : all of this together.
-/

namespace WlanAdmin
namespace Schedule

/-! ## One word -/

/-- `0x` and a hexadecimal numeral, with the number that it spells. -/
inductive IsWord : List Char → Nat → Prop where
  | numeral {digits : List Char} {n : Nat} : Numeral 16 digits n → IsWord ('0' :: 'x' :: digits) n

/-- A word whose number has a bit for each of its slots and no more. -/
def Fits (part : List Char) : Prop := ∃ n, IsWord part n ∧ n < 0x1000000

/-- What is wrong with a part that is no word that fits. -/
inductive Faulty : List Char → ScheduleFault → Prop where
  | tooManyBits {part : List Char} {n : Nat} : IsWord part n → 0x1000000 ≤ n →
      n < 0x10000000000000000 → Faulty part .tooManyBits
  /-- It is no word at all, or one of more than 64 bits. -/
  | invalidWord {part : List Char} : (∀ n, IsWord part n → 0x10000000000000000 ≤ n) →
      Faulty part .invalidWord

theorem IsWord.unique {part : List Char} {n m : Nat} (h : IsWord part n) (h' : IsWord part m) :
    n = m := by
  cases h with
  | numeral read =>
    cases h' with
    | numeral read' => exact read.unique (by decide) read'

theorem readWord_of_word {part : List Char} {n : Nat} (h : IsWord part n) :
    readWord part = if 0x10000000000000000 ≤ n then .error .invalidWord
      else if 0x1000000 ≤ n then .error .tooManyBits else .ok n := by
  cases h with
  | @numeral digits n numeral =>
    obtain ⟨c, rest, rfl⟩ := List.exists_cons_of_ne_nil numeral.ne_nil
    rw [readWord, numeral.readBase_eq (by decide)]

theorem readWord_of_none {part : List Char} (h : ∀ n, ¬ IsWord part n) :
    readWord part = .error .invalidWord := by
  unfold readWord
  split
  · rename_i c rest
    cases read : readBase 16 0 (c :: rest) with
    | none => rfl
    | some n =>
      rw [readBase_eq_some_iff (by decide) (List.cons_ne_nil c rest)] at read
      exact absurd (.numeral read) (h n)
  · rfl

theorem readWord_ok_iff {part : List Char} {n : Nat} :
    readWord part = .ok n ↔ IsWord part n ∧ n < 0x1000000 := by
  by_cases word : ∃ m, IsWord part m
  · obtain ⟨m, word⟩ := word
    have same : IsWord part n ↔ n = m := ⟨fun h => h.unique word, fun h => h ▸ word⟩
    rw [readWord_of_word word, same]
    grind
  · have none (m : Nat) : ¬ IsWord part m := fun h => word ⟨m, h⟩
    rw [readWord_of_none none]
    exact ⟨nofun, fun h => absurd h.1 (none n)⟩

theorem readWord_error_iff {part : List Char} {fault : ScheduleFault} :
    readWord part = .error fault ↔ Faulty part fault := by
  by_cases word : ∃ m, IsWord part m
  · obtain ⟨m, word⟩ := word
    rw [readWord_of_word word]
    split
    · rename_i huge
      constructor
      · rintro ⟨⟩
        exact .invalidWord fun n h => h.unique word ▸ huge
      · rintro (⟨h, -, small⟩ | _)
        · exact absurd (h.unique word ▸ small) (Nat.not_lt.mpr huge)
        · rfl
    · split
      · rename_i small large
        constructor
        · rintro ⟨⟩
          exact .tooManyBits word large (Nat.lt_of_not_le small)
        · rintro (_ | h)
          · rfl
          · exact absurd (h m word) small
      · rename_i small fits
        constructor
        · rintro ⟨⟩
        · rintro (⟨h, large, -⟩ | h)
          · exact absurd (h.unique word ▸ large) fits
          · exact absurd (h m word) small
  · have none (m : Nat) : ¬ IsWord part m := fun h => word ⟨m, h⟩
    rw [readWord_of_none none]
    constructor
    · rintro ⟨⟩
      exact .invalidWord fun n h => absurd h (none n)
    · rintro (⟨h, -⟩ | _)
      · exact absurd h (none _)
      · rfl

theorem fits_iff {part : List Char} : Fits part ↔ ∃ n, readWord part = .ok n := by
  simp only [Fits, readWord_ok_iff]

/-- A word without the zeros in front, in lower case. -/
def tidy (part : List Char) : List Char := part.take 2 ++ significant (part.drop 2)

theorem writeWord_of_word {part : List Char} {n : Nat} (h : IsWord part n) :
    writeWord n = tidy part := by
  cases h with
  | numeral read =>
    rw [writeWord, read.toDigits_eq (by decide) (by decide)]
    rfl

/-! ## The parts of a text -/

/-- The 28 parts of a text, with colons between them. Only the last part can have colons of its
own. -/
structure Cut (text : String) (parts : List (List Char)) : Prop where
  count : parts.length = words
  joined : text.toList = [':'].intercalate parts
  plain : ∀ part ∈ parts.dropLast, ':' ∉ part

theorem Cut.splitMost_eq {text : String} {parts : List (List Char)} (cut : Cut text parts) :
    splitMost ':' words text.toList = parts := by
  have nonempty : parts ≠ [] := fun none => by
    have := cut.count
    rw [none] at this
    cases this
  rw [cut.joined, ← cut.count]
  exact splitMost_intercalate nonempty cut.plain

/-- Cutting a text at most so often: the parts are joined to the text again, only the last has
separators of its own, and there are as many as there are separators to cut at. -/
theorem splitMost_parts (separator : Char) (count : Nat) (chars : List Char) :
    let parts := splitMost separator (count + 1) chars
    parts.length = min count (chars.count separator) + 1 ∧
      [separator].intercalate parts = chars ∧ ∀ part ∈ parts.dropLast, separator ∉ part := by
  induction count generalizing chars with
  | zero => simp [splitMost]
  | succ count ih =>
    by_cases mem : separator ∈ chars
    · obtain ⟨part, rest, rfl, absent⟩ := List.eq_append_cons_of_mem mem
      obtain ⟨length, joined, plain⟩ := ih rest
      rw [splitMost_append absent]
      obtain ⟨second, others, more⟩ :=
        List.exists_cons_of_length_eq_add_one length
      rw [more] at length joined plain ⊢
      refine ⟨?_, ?_, ?_⟩
      · rw [List.length_cons, length, List.count_append, List.count_eq_zero_of_not_mem absent,
          List.count_cons_self]
        omega
      · rw [List.intercalate_cons_cons, joined]
        simp
      · rw [List.dropLast_cons_cons]
        exact List.forall_mem_cons.mpr ⟨absent, plain⟩
    · rw [splitMost_of_not_mem mem, List.count_eq_zero_of_not_mem mem]
      simp

theorem length_splitMost_lt_iff (chars : List Char) :
    (splitMost ':' words chars).length < words ↔ chars.count ':' < 27 := by
  have := (splitMost_parts ':' 27 chars).1
  rw [show splitMost ':' words chars = splitMost ':' (27 + 1) chars from rfl, this]
  show min 27 (chars.count ':') + 1 < 28 ↔ _
  omega

/-- A text with enough colons has one cut. -/
theorem cut_iff {text : String} {parts : List (List Char)} :
    Cut text parts ↔ ¬ text.toList.count ':' < 27 ∧ parts = splitMost ':' words text.toList := by
  constructor
  · intro cut
    refine ⟨?_, cut.splitMost_eq.symm⟩
    rw [← length_splitMost_lt_iff, cut.splitMost_eq, cut.count]
    exact Nat.lt_irrefl _
  · rintro ⟨enough, rfl⟩
    obtain ⟨length, joined, plain⟩ := splitMost_parts ':' 27 text.toList
    refine ⟨length.trans ?_, joined.symm, plain⟩
    show min 27 (text.toList.count ':') + 1 = 28
    omega

/-! ## All words -/

theorem readWords_eq_mapM (parts : List (List Char)) :
    readWords parts = (parts.mapM readWord).map (·.flatMap (toBits wordBits)) := by
  induction parts with
  | nil => rfl
  | cons part rest ih =>
    rw [readWords, ih]
    cases read : readWord part with
    | error fault =>
      rw [mapM_cons_error read]
      rfl
    | ok n =>
      rw [mapM_cons_ok read]
      cases rest.mapM readWord <;> rfl

/-- What a cut text is read as. -/
theorem read_of_cut {text : String} {parts : List (List Char)} (cut : Cut text parts) :
    read text = match parts.mapM readWord with
      | .error fault => .error (.badSchedule fault)
      | .ok numbers =>
        .ok ⟨.ofFn fun i => (numbers.flatMap (toBits wordBits)).getD i false⟩ := by
  have enough : ¬ parts.length < words := cut.count ▸ Nat.lt_irrefl _
  unfold read
  simp only [cut.splitMost_eq, if_neg enough, readWords_eq_mapM]
  cases parts.mapM readWord <;> rfl

theorem ofBits_toBits (count n : Nat) (h : n < Nat.pow 2 count) : ofBits (toBits count n) = n := by
  induction count generalizing n with
  | zero => exact (Nat.lt_one_iff.mp h).symm
  | succ count ih =>
    have double : Nat.pow 2 (count + 1) = Nat.pow 2 count * 2 := rfl
    have bit : (n % 2 == 1).toNat = n % 2 := by
      rcases Nat.mod_two_eq_zero_or_one n with even | odd <;> simp [*]
    rw [toBits, ofBits, ih (n / 2) (by omega), bit]
    omega

theorem length_toBits (count n : Nat) : (toBits count n).length = count := by
  induction count generalizing n with
  | zero => rfl
  | succ count ih => rw [toBits, List.length_cons, ih]

/-- One of several chunks of one length. -/
theorem chunk_flatMap {α β : Type} {f : α → List β} {size : Nat} (h : ∀ a, (f a).length = size)
    (l : List α) (index : Nat) (a : α) (found : l[index]? = some a) :
    ((l.flatMap f).drop (size * index)).take size = f a := by
  induction l generalizing index with
  | nil => cases found
  | cons first rest ih =>
    cases index with
    | zero =>
      cases found
      simp [h]
    | succ index =>
      have skip : size * (index + 1) = (f first).length + size * index := by
        rw [h, Nat.mul_succ, Nat.add_comm]
      rw [List.flatMap_cons, skip, List.drop_length_add_append]
      exact ih index (by simpa using found)

theorem forall₂_readWord_iff {parts : List (List Char)} {numbers : List Nat} :
    List.Forall₂ (fun part n => readWord part = .ok n) parts numbers ↔
      List.Forall₂ (fun part n => IsWord part n ∧ n < 0x1000000) parts numbers := by
  simp only [readWord_ok_iff]

theorem toList_ofFn_getD {α : Type} {count : Nat} {l : List α} (h : l.length = count)
    (default : α) : (Vector.ofFn fun i : Fin count => l.getD i default).toList = l := by
  subst h
  refine List.ext_getElem (by simp) fun i _ bound => ?_
  simp

/-- The words of a schedule that has been read are those of its text. -/
theorem word_of_read {text : String} {parts : List (List Char)} (cut : Cut text parts)
    {schedule : Schedule} (accepted : read text = .ok schedule) :
    List.Forall₂ IsWord parts ((List.range words).map schedule.word) := by
  rw [read_of_cut cut] at accepted
  cases all : parts.mapM readWord with
  | error fault =>
    rw [all] at accepted
    cases accepted
  | ok numbers =>
    rw [all] at accepted
    have each := forall₂_readWord_iff.mp (mapM_eq_ok_iff.mp all)
    have count : numbers.length = words := each.length_eq.symm.trans cut.count
    have whole : (numbers.flatMap (toBits wordBits)).length = 672 := by
      rw [List.length_flatMap, List.map_congr_left fun n _ => length_toBits wordBits n]
      simp [count, words, wordBits]
    have slots : schedule.slots.toList = numbers.flatMap (toBits wordBits) := by
      rw [← Except.ok.inj accepted]
      exact toList_ofFn_getD whole false
    have same : (List.range words).map schedule.word = numbers := by
      refine List.ext_getElem (by simp [count]) fun index _ bound => ?_
      have chunk := chunk_flatMap (length_toBits wordBits) numbers index numbers[index]
        (List.getElem?_eq_getElem bound)
      have small : numbers[index] < 0x1000000 := (each.get (cut.count ▸ count ▸ bound) bound).2
      rw [List.getElem_map, List.getElem_range, word, slots]
      exact (congrArg ofBits chunk).trans (ofBits_toBits wordBits _ small)
    rw [same]
    exact each.imp fun _ _ h => h.1

/-- A schedule that has been read is written word by word, tidied up. -/
theorem write_of_cut {text : String} {parts : List (List Char)} (cut : Cut text parts)
    {schedule : Schedule} (accepted : read text = .ok schedule) :
    schedule.write.toList = [':'].intercalate (parts.map tidy) := by
  have each : List.Forall₂ (fun n part => writeWord n = tidy part)
      ((List.range words).map schedule.word) parts :=
    ((word_of_read cut accepted).imp fun _ _ h => writeWord_of_word h).flip
  have written : ((List.range words).map schedule.word).map writeWord = parts.map tidy := by
    rw [← List.forall₂_eq_eq_eq, List.forall₂_map_left_iff, List.forall₂_map_right_iff]
    exact each
  rw [write, String.toList_ofList, ← written, List.map_map]
  rfl

/-! ## All texts -/

theorem colon_not_mem_of_fits {part : List Char} (h : Fits part) : ':' ∉ part := by
  have digit : ∀ value < 16, ':' ≠ value.digitChar ∧ ':' ≠ value.digitChar.toUpper := by decide
  have apart {c : Char} {value : Nat} (d : IsDigit 16 c value) : ':' ≠ c := by
    rcases d.2 with rfl | rfl
    · exact (digit value d.1).1
    · exact (digit value d.1).2
  obtain ⟨n, word, -⟩ := h
  cases word with
  | @numeral digits _ read =>
    have plain : ':' ∉ digits := by
      induction read with
      | digit d => simpa using apart d
      | append _ d ih => simpa using ⟨ih, apart d⟩
    simpa using plain

/-- The texts that are read are 28 words that fit, with colons between them. -/
theorem read_ok_iff (text : String) : (∃ schedule, read text = .ok schedule) ↔
    ∃ parts : List (List Char), parts.length = words ∧ text.toList = [':'].intercalate parts ∧
      ∀ part ∈ parts, Fits part := by
  constructor
  · rintro ⟨schedule, accepted⟩
    have enough : ¬ text.toList.count ':' < 27 := by
      intro few
      rw [read] at accepted
      simp only [(length_splitMost_lt_iff text.toList).mpr few, if_true] at accepted
      cases accepted
    have cut := cut_iff.mpr ⟨enough, rfl⟩
    refine ⟨_, cut.count, cut.joined, ?_⟩
    simp only [fits_iff, ← exists_mapM_eq_ok_iff]
    rw [read_of_cut cut] at accepted
    cases all : (splitMost ':' words text.toList).mapM readWord with
    | error fault =>
      rw [all] at accepted
      cases accepted
    | ok numbers => exact ⟨numbers, rfl⟩
  · rintro ⟨parts, count, joined, each⟩
    have cut : Cut text parts :=
      ⟨count, joined, fun part mem =>
        colon_not_mem_of_fits (each part ((List.dropLast_sublist parts).subset mem))⟩
    simp only [fits_iff, ← exists_mapM_eq_ok_iff] at each
    obtain ⟨numbers, all⟩ := each
    rw [read_of_cut cut, all]
    exact ⟨_, rfl⟩

/-- What is wrong with all other texts: they have too few colons, or else the first part that is no
word that fits decides. -/
theorem read_error_iff (text : String) (error : FormatError) : read text = .error error ↔
    text.toList.count ':' < 27 ∧ error = .badSchedule .notEnoughWords ∨
      ∃ parts fault, Cut text parts ∧ FirstFault Fits Faulty parts fault ∧
        error = .badSchedule fault := by
  have first (parts : List (List Char)) (fault : ScheduleFault) :
      FirstFault Fits Faulty parts fault ↔ parts.mapM readWord = .error fault := by
    rw [mapM_eq_error_iff]
    simp only [FirstFault, fits_iff, readWord_error_iff]
  by_cases few : text.toList.count ':' < 27
  · have none (parts : List (List Char)) : ¬ Cut text parts := fun cut => (cut_iff.mp cut).1 few
    rw [read]
    simp only [(length_splitMost_lt_iff text.toList).mpr few, if_true]
    grind
  · have cut := cut_iff.mpr ⟨few, rfl⟩
    have only {parts : List (List Char)} (other : Cut text parts) :
        parts = splitMost ':' words text.toList := (cut_iff.mp other).2
    rw [read_of_cut cut]
    constructor
    · intro rejected
      cases all : (splitMost ':' words text.toList).mapM readWord with
      | error fault =>
        rw [all] at rejected
        exact .inr ⟨_, fault, cut, (first _ fault).mpr all, (Except.error.inj rejected).symm⟩
      | ok numbers =>
        rw [all] at rejected
        cases rejected
    · rintro (⟨h, -⟩ | ⟨parts, fault, other, faulty, rfl⟩)
      · exact absurd h few
      · rw [only other] at faulty
        rw [(first _ fault).mp faulty]

/-- Schedules as texts: what is written is read back, which texts are read and what is wrong with
all others, and how a text that is read is written again. -/
theorem read_text :
    (∀ schedule : Schedule, read schedule.write = .ok schedule) ∧
    ∀ text : String,
      ((∃ schedule, read text = .ok schedule) ↔
        ∃ parts : List (List Char), parts.length = words ∧
          text.toList = [':'].intercalate parts ∧ ∀ part ∈ parts, Fits part) ∧
      (∀ error, read text = .error error ↔
        text.toList.count ':' < 27 ∧ error = .badSchedule .notEnoughWords ∨
          ∃ parts fault, Cut text parts ∧ FirstFault Fits Faulty parts fault ∧
            error = .badSchedule fault) ∧
      ∀ parts schedule, Cut text parts → read text = .ok schedule →
        schedule.write.toList = [':'].intercalate (parts.map tidy) :=
  ⟨codec_lawful, fun text => ⟨read_ok_iff text, read_error_iff text,
    fun _ _ cut accepted => write_of_cut cut accepted⟩⟩

/-- A word in upper case with zeros in front, and a week that is off otherwise. -/
theorem read_text_upper_case :
    let parts := "0x00ABCDEF".toList :: List.replicate 27 "0x0".toList
    let text := String.ofList ([':'].intercalate parts)
    Cut text parts ∧ ∃ schedule, read text = .ok schedule ∧ schedule.write.toList =
      [':'].intercalate ("0xabcdef".toList :: List.replicate 27 "0x0".toList) := by
  intro parts text
  have each : ∀ part ∈ parts, Fits part := by
    intro part mem
    rcases List.mem_cons.mp mem with rfl | mem
    · exact fits_iff.mpr ⟨0xABCDEF, rfl⟩
    · rw [List.eq_of_mem_replicate mem]
      exact fits_iff.mpr ⟨0, rfl⟩
  have joined : text.toList = [':'].intercalate parts := String.toList_ofList
  have cut : Cut text parts := ⟨rfl, joined, by decide⟩
  obtain ⟨accept, -, rewrite⟩ := read_text.2 text
  obtain ⟨schedule, accepted⟩ := accept.mpr ⟨parts, rfl, joined, each⟩
  refine ⟨cut, schedule, accepted, (rewrite parts schedule cut accepted).trans ?_⟩
  decide

end Schedule
end WlanAdmin
