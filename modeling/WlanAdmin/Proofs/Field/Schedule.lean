import WlanAdmin.Field.Schedule
import WlanAdmin.Proofs.Text.Digits

/-!
# WlanAdmin.Proofs.Field.Schedule

A written schedule is read back slot by slot.

* `toBits_ofBits`, `readWord_writeWord` : one word, as bits and as hexadecimal digits.
* `splitMost_intercalate` : the words are told apart again.
* `flatMap_chunks`        : the words of a week are the whole week.
* `Schedule.codec_lawful` : the round trip.
-/

namespace WlanAdmin
namespace Schedule

/-! ## One word -/

theorem ofBits_lt (bits : List Bool) : ofBits bits < Nat.pow 2 bits.length := by
  induction bits with
  | nil => decide
  | cons bit bits ih =>
    have hbit : bit.toNat ≤ 1 := bit.toNat_le
    have hpow : Nat.pow 2 (bits.length + 1) = Nat.pow 2 bits.length * 2 := rfl
    rw [ofBits, List.length_cons, hpow]
    omega

theorem toBits_ofBits (bits : List Bool) : toBits bits.length (ofBits bits) = bits := by
  induction bits with
  | nil => rfl
  | cons bit bits ih =>
    have hmod : (bit.toNat + 2 * ofBits bits) % 2 = bit.toNat := by
      have := bit.toNat_le
      omega
    have hdiv : (bit.toNat + 2 * ofBits bits) / 2 = ofBits bits := by
      have := bit.toNat_le
      omega
    rw [List.length_cons, ofBits, toBits, hmod, hdiv, ih]
    cases bit <;> rfl

theorem readWord_writeWord {n : Nat} (h : n < 0x1000000) : readWord (writeWord n) = .ok n := by
  obtain ⟨c, rest, hd⟩ := List.exists_cons_of_ne_nil (Nat.toDigits_ne_nil (n := n) (b := 16))
  have hread : readBase 16 0 (Nat.toDigits 16 n) = some n :=
    readBase_toDigits (by decide) (by decide) n
  rw [hd] at hread
  have hlarge : ¬ 0x10000000000000000 ≤ n := by omega
  have hbits : ¬ 0x1000000 ≤ n := by omega
  rw [writeWord, hd, readWord, hread]
  simp only [if_neg hlarge, if_neg hbits]

/-- No colon stands in a word. -/
theorem colon_not_mem_toDigits (n : Nat) : ':' ∉ Nat.toDigits 16 n := by
  intro mem
  obtain ⟨d, small, same⟩ := exists_digit_of_mem_toDigits (by decide) mem
  have other : ∀ d < 16, ':' ≠ d.digitChar := by decide
  exact other d small same

/-! ## All words -/

theorem bne_of_not_mem {separator : Char} {part : List Char} (h : separator ∉ part) :
    ∀ c ∈ part, (c != separator) = true := fun c hc => by
  simpa using fun he : c = separator => h (he ▸ hc)

theorem splitMost_of_not_mem {separator : Char} {chars : List Char} (h : separator ∉ chars)
    (count : Nat) : splitMost separator (count + 1) chars = [chars] := by
  cases count with
  | zero => rfl
  | succ count =>
    have whole : chars.dropWhile (· != separator) = [] := by
      simpa using @List.dropWhile_append_of_pos _ _ chars [] (bne_of_not_mem h)
    rw [splitMost, whole]

theorem splitMost_append {separator : Char} {part : List Char} (h : separator ∉ part) (count : Nat)
    (rest : List Char) : splitMost separator (count + 2) (part ++ separator :: rest) =
      part :: splitMost separator (count + 1) rest := by
  rw [splitMost, List.dropWhile_append_of_pos (bne_of_not_mem h),
    List.takeWhile_append_of_pos (bne_of_not_mem h)]
  simp

/-- Parts are told apart again if no separator stands in any but the last. -/
theorem splitMost_intercalate {separator : Char} {parts : List (List Char)} (hne : parts ≠ [])
    (h : ∀ part ∈ parts.dropLast, separator ∉ part) :
    splitMost separator parts.length (List.intercalate [separator] parts) = parts := by
  induction parts with
  | nil => exact absurd rfl hne
  | cons part parts ih =>
    cases parts with
    | nil => rw [List.intercalate_singleton]; rfl
    | cons second others =>
      rw [List.dropLast_cons_cons] at h
      have hrest := ih nofun fun p hp => h p (List.mem_cons_of_mem _ hp)
      rw [List.intercalate_cons_cons, List.append_assoc, List.singleton_append]
      exact (splitMost_append (h part List.mem_cons_self) others.length _).trans
        (congrArg (part :: ·) hrest)

theorem readWords_written {numbers : List Nat} (h : ∀ n ∈ numbers, n < 0x1000000) :
    readWords (numbers.map writeWord) = .ok (numbers.flatMap (toBits wordBits)) := by
  induction numbers with
  | nil => rfl
  | cons n numbers ih =>
    rw [List.map_cons, readWords, readWord_writeWord (h n List.mem_cons_self),
      ih fun m hm => h m (List.mem_cons_of_mem _ hm)]
    rfl

/-- Parts of one length, cut one after the other, are the list up to the end of the last. -/
theorem flatMap_chunks {α : Type} (l : List α) (size count : Nat) :
    (List.range count).flatMap (fun index => (l.drop (size * index)).take size) =
      l.take (size * count) := by
  induction count with
  | zero => simp
  | succ count ih =>
    rw [List.range_succ, List.flatMap_append, ih, List.flatMap_singleton, Nat.mul_succ,
      List.take_add]

theorem length_chunk (schedule : Schedule) {index : Nat} (h : index < words) :
    ((schedule.slots.toList.drop (24 * index)).take 24).length = wordBits := by
  have : index < 28 := h
  rw [List.length_take, List.length_drop, Vector.length_toList]
  show min 24 (672 - 24 * index) = 24
  omega

theorem word_lt (schedule : Schedule) {index : Nat} (h : index < words) :
    schedule.word index < 0x1000000 := by
  have := ofBits_lt ((schedule.slots.toList.drop (24 * index)).take 24)
  rwa [length_chunk schedule h] at this

theorem toBits_word (schedule : Schedule) {index : Nat} (h : index < words) :
    toBits wordBits (schedule.word index) = (schedule.slots.toList.drop (24 * index)).take 24 := by
  have := toBits_ofBits ((schedule.slots.toList.drop (24 * index)).take 24)
  rwa [length_chunk schedule h] at this

/-- What is written of a schedule is read as that schedule. -/
theorem codec_lawful : codec.Lawful := by
  intro schedule
  let numbers := (List.range words).map schedule.word
  have hnumbers : ∀ n ∈ numbers, n < 0x1000000 := by
    intro n hn
    obtain ⟨index, hi, rfl⟩ := List.mem_map.mp hn
    exact word_lt schedule (List.mem_range.mp hi)
  have hwrite : schedule.write =
      String.ofList (List.intercalate [':'] (numbers.map writeWord)) := by
    rw [write, List.map_map]
    rfl
  have hsplit : splitMost ':' words (List.intercalate [':'] (numbers.map writeWord)) =
      numbers.map writeWord := by
    have hcolon : ∀ part ∈ numbers.map writeWord, ':' ∉ part := by
      intro part hp
      obtain ⟨n, -, rfl⟩ := List.mem_map.mp hp
      simpa [writeWord] using colon_not_mem_toDigits n
    have := @splitMost_intercalate ':' (numbers.map writeWord) (by simp [numbers, words])
      fun part hp => hcolon part ((List.dropLast_sublist _).subset hp)
    simpa [numbers] using this
  have hbits : numbers.flatMap (toBits wordBits) = schedule.slots.toList := by
    have hchunks : numbers.flatMap (toBits wordBits) = (List.range words).flatMap fun index =>
        (schedule.slots.toList.drop (24 * index)).take 24 := by
      rw [List.flatMap_map, List.flatMap_def, List.flatMap_def]
      refine congrArg List.flatten (List.map_congr_left fun index hi => ?_)
      exact toBits_word schedule (List.mem_range.mp hi)
    rw [hchunks, flatMap_chunks]
    exact List.take_of_length_le (by rw [Vector.length_toList]; decide)
  have hlength : ¬ (numbers.map writeWord).length < words := by simp [numbers]
  have hslots : (Vector.ofFn fun i : Fin 672 => schedule.slots.toList.getD i false) =
      schedule.slots := Vector.ext fun i _ => by simp
  show read schedule.write = _
  rw [read, hwrite, String.toList_ofList]
  simp only [hsplit, if_neg hlength, readWords_written hnumbers, hbits, hslots]

end Schedule
end WlanAdmin
