import WlanAdmin.Proofs.Domain.Mapping
import WlanAdmin.Proofs.Domain.Marks

/-!
# WlanAdmin.Proofs.Domain.Composition

A composed text is the composed form of itself, and so is each label of it.

* `parts_of_compose?` : two characters that are joined come apart again.
* `alike_composeAfter` : composing only moves marks over marks of other classes.
* `composed_composed` : composing once is enough.
* `composed_splitOn` : labels are composed one by one.
* `composed_ascii` : ASCII texts are composed.
-/

namespace WlanAdmin.Domain

/-! ## Pairs -/

/-- Whether a code point is also written as two. -/
def isPair (code : Nat) : Bool := pairs.any fun pair => pair.1 == code

/-- A character that is no dot, no capital letter and no digit, as all are that are made by
composing. -/
def IsMade (code : Nat) : Prop := 0x3C ≤ code ∧ ¬ IsCapitalCode code

instance (code : Nat) : Decidable (IsMade code) := inferInstanceAs (Decidable (_ ∧ _))

/-- A set of code points, as the bits of a number. -/
def codeSet (codes : List Nat) : Nat := codes.foldl (fun set code => set ||| 1 <<< code) 0

theorem testBit_codeSet {codes : List Nat} {code : Nat} :
    (codeSet codes).testBit code = true ↔ code ∈ codes := by
  have step : ∀ set, (codes.foldl (fun set code => set ||| 1 <<< code) set).testBit code = true ↔
      set.testBit code = true ∨ code ∈ codes := by
    induction codes with
    | nil => simp
    | cons c codes ih =>
      intro set
      rw [List.foldl_cons, ih, Nat.testBit_or, Nat.one_shiftLeft, Nat.testBit_two_pow,
        Bool.or_eq_true, decide_eq_true_eq, List.mem_cons, or_assoc, eq_comm (a := c)]
  simpa [codeSet] using step 0

/-- The pairs. -/
def pairCodes : Nat := codeSet (pairs.map fun pair => pair.1)

/-- The pairs whose first part is a pair. -/
def nestedCodes : Nat :=
  codeSet ((pairs.filter fun pair => pairCodes.testBit pair.2.1).map fun pair => pair.1)

/-- What is relied on of a pair: it is no Hangul, its second part is no pair, and its first part is
one of two that are none at most. -/
def isRegular : Nat × Nat × Nat → Bool
  | (code, first, second) =>
    code.isValidChar && first.isValidChar && second.isValidChar && 0x80 ≤ code && IsMade first &&
    0x300 ≤ second && !(0x1100 ≤ code && code < 0x1200) && !(0xAC00 ≤ code && code < 0xD7A4) &&
    !pairCodes.testBit second && !nestedCodes.testBit first

theorem pairs_regular : pairs.all isRegular = true := by decide +kernel

theorem isPair_iff {code : Nat} : isPair code = true ↔ pairCodes.testBit code = true := by
  rw [pairCodes, testBit_codeSet, isPair, List.any_eq_true, List.mem_map]
  exact exists_congr fun _ => and_congr_right fun _ => beq_iff_eq

/-- What `isRegular` says. -/
structure RegularPair (code first second : Nat) : Prop where
  valid : code.isValidChar ∧ first.isValidChar ∧ second.isValidChar
  code_high : 0x80 ≤ code
  first_made : IsMade first
  second_high : 0x300 ≤ second
  no_letter : ¬ (0x1100 ≤ code ∧ code < 0x1200)
  no_syllable : ¬ (0xAC00 ≤ code ∧ code < 0xD7A4)
  second_single : isPair second = false
  first_shallow : nestedCodes.testBit first = false

theorem RegularPair.of_mem {code first second : Nat} (mem : (code, first, second) ∈ pairs) :
    RegularPair code first second := by
  have regular := List.all_eq_true.mp pairs_regular _ mem
  simp only [isRegular, Bool.and_eq_true, decide_eq_true_eq, Bool.not_eq_true',
    Bool.and_eq_false_iff, decide_eq_false_iff_not] at regular
  obtain ⟨⟨⟨⟨⟨⟨⟨⟨⟨v, v₁⟩, v₂⟩, high⟩, made⟩, high₂⟩, letter⟩, syllable⟩, single⟩, shallow⟩ := regular
  refine ⟨⟨v, v₁, v₂⟩, high, made, high₂, by omega, by omega, ?_, shallow⟩
  exact Bool.eq_false_iff.mpr fun pair => by simp [isPair_iff.mp pair] at single

/-- The parts of a first part are no pairs. -/
theorem RegularPair.first_parts {code first second a b : Nat} (h : RegularPair code first second)
    (inner : (first, a, b) ∈ pairs) : isPair a = false ∧ isPair b = false := by
  refine ⟨Bool.eq_false_iff.mpr fun pair => ?_, (RegularPair.of_mem inner).second_single⟩
  have nested : nestedCodes.testBit first = true := testBit_codeSet.mpr
    (List.mem_map.mpr ⟨_, List.mem_filter.mpr ⟨inner, isPair_iff.mp pair⟩, rfl⟩)
  rw [h.first_shallow] at nested
  cases nested

theorem isPair_of_mem {code : Nat} {parts : Nat × Nat} (mem : (code, parts) ∈ pairs) :
    isPair code = true := List.any_eq_true.mpr ⟨_, mem, beq_self_eq_true _⟩

/-- The pair of a code point is found. -/
theorem pairTable_get? {code : Nat} {parts : Nat × Nat} :
    pairTable.get? code = some parts ↔ (code, parts) ∈ pairs := by
  constructor
  · intro h
    obtain ⟨range, found, rfl⟩ := Option.map_eq_some_iff.mp h
    obtain ⟨mem, first, last⟩ := CodeTable.of_find? found
    obtain ⟨⟨key, parts⟩, inside, rfl⟩ := List.mem_map.mp mem
    exact (Nat.le_antisymm first last : key = code) ▸ inside
  · intro mem
    have mem : (⟨code, code, parts⟩ : CodeRange (Nat × Nat)) ∈ pairTable.toList :=
      List.mem_map.mpr ⟨_, mem, rfl⟩
    rw [CodeTable.get?,
      CodeTable.find?_of_mem pairTable_increasing mem (Nat.le_refl _) (Nat.le_refl _)]
    rfl

theorem pairTable_get?_none {code : Nat} (single : isPair code = false) :
    pairTable.get? code = none := by
  cases h : pairTable.get? code with
  | none => rfl
  | some parts => rw [isPair_of_mem (pairTable_get?.mp h)] at single; cases single

/-- What two code points are joined to is a pair of them. -/
theorem mem_of_composite {a b code : Nat} (h : composite[(a, b)]? = some code) :
    (code, a, b) ∈ pairs := by
  rw [composite, Std.HashMap.ofList_eq_insertMany_empty, Std.HashMap.getElem?_insertMany_list,
    Std.HashMap.getElem?_empty, Option.or_none, List.findSomeRev?_eq_findSome?_reverse] at h
  obtain ⟨⟨key, value⟩, mem, found⟩ := List.exists_of_findSome?_eq_some h
  obtain ⟨⟨code, parts⟩, inside, same⟩ := List.mem_map.mp (List.mem_reverse.mp mem)
  simp only [Prod.mk.injEq] at same
  obtain ⟨rfl, rfl⟩ := same
  simp only [beq_iff_eq, Option.ite_none_right_eq_some, Option.some.injEq] at found
  obtain ⟨rfl, rfl⟩ := found
  exact inside

/-! ## Taking apart -/

/-- A code point that is not taken apart. -/
structure IsSingle (code : Nat) : Prop where
  no_syllable : splitSyllable code = none
  no_pair : isPair code = false

theorem IsSingle.decompose {code : Nat} (h : IsSingle code) (depth : Nat) :
    decompose depth code = [code] := by
  cases depth with
  | zero => rfl
  | succ depth => simp only [Domain.decompose, h.no_syllable, pairTable_get?_none h.no_pair]

theorem splitSyllable_eq (code : Nat) :
    splitSyllable code =
      if 0xAC00 ≤ code ∧ code < 0xD7A4 then
        some ([0x1100 + (code - 0xAC00) / 588, 0x1161 + (code - 0xAC00) / 28 % 21] ++
          if (code - 0xAC00) % 28 = 0 then [] else [0x11A7 + (code - 0xAC00) % 28])
      else none := rfl

theorem splitSyllable_none {code : Nat} (h : ¬ (0xAC00 ≤ code ∧ code < 0xD7A4)) :
    splitSyllable code = none := if_neg h

theorem isSingle_letter {code : Nat} (h : 0x1100 ≤ code ∧ code < 0x1200) : IsSingle code where
  no_syllable := splitSyllable_none (by omega)
  no_pair := by
    refine Bool.eq_false_iff.mpr fun pair => ?_
    obtain ⟨⟨key, parts⟩, mem, same⟩ := List.any_eq_true.mp pair
    obtain rfl := eq_of_beq same
    exact (RegularPair.of_mem mem).no_letter h

/-- The parts of a syllable are letters. -/
theorem mem_splitSyllable {code : Nat} {parts : List Nat} (h : splitSyllable code = some parts) :
    ∀ part ∈ parts, 0x1100 ≤ part ∧ part < 0x1200 := by
  rw [splitSyllable_eq, Option.ite_none_right_eq_some, Option.some.injEq] at h
  obtain ⟨inside, rfl⟩ := h
  intro part mem
  simp only [List.mem_append, List.mem_cons, List.not_mem_nil, or_false, List.mem_ite_nil_left]
    at mem
  omega

/-- A code point that is no pair is taken apart at once. -/
theorem decompose_of_single {code : Nat} (single : isPair code = false) (depth : Nat) :
    decompose (depth + 1) code = (splitSyllable code).getD [code] := by
  rw [decompose, pairTable_get?_none single]
  cases splitSyllable code <;> rfl

theorem decompose_pair {code first second : Nat} (mem : (code, first, second) ∈ pairs)
    (depth : Nat) :
    decompose (depth + 1) code = decompose depth first ++ decompose depth second := by
  rw [decompose, splitSyllable_none (RegularPair.of_mem mem).no_syllable, pairTable_get?.mpr mem]

/-- The first part of a pair has come apart when the depth is not used up. -/
theorem decompose_first {code first second : Nat} (mem : (code, first, second) ∈ pairs) :
    decompose 4 first = decompose 3 first := by
  cases single : isPair first with
  | false => rw [decompose_of_single single, decompose_of_single single]
  | true =>
    obtain ⟨⟨key, a, b⟩, inner, same⟩ := List.any_eq_true.mp single
    obtain rfl : key = first := eq_of_beq same
    obtain ⟨ha, hb⟩ := (RegularPair.of_mem mem).first_parts inner
    rw [decompose_pair inner, decompose_pair inner]
    simp only [decompose_of_single ha, decompose_of_single hb]

/-- A pair comes apart into what its two parts come apart into. -/
theorem decompose_depth {code first second : Nat} (mem : (code, first, second) ∈ pairs) :
    decompose pairDepth code = decompose pairDepth first ++ decompose pairDepth second := by
  have single := (RegularPair.of_mem mem).second_single
  rw [pairDepth, decompose_pair mem, decompose_first mem, decompose_of_single single,
    decompose_of_single single]

theorem exists_of_isPair {code : Nat} (h : isPair code = true) :
    ∃ first second, (code, first, second) ∈ pairs := by
  obtain ⟨⟨key, first, second⟩, mem, same⟩ := List.any_eq_true.mp h
  exact ⟨first, second, eq_of_beq same ▸ mem⟩

theorem isSingle_of_mem {code part depth : Nat} (single : isPair code = false)
    (mem : part ∈ decompose (depth + 1) code) : IsSingle part := by
  rw [decompose_of_single single] at mem
  cases syllable : splitSyllable code with
  | some parts =>
    rw [syllable] at mem
    exact isSingle_letter (mem_splitSyllable syllable part mem)
  | none =>
    rw [syllable] at mem
    rw [List.mem_singleton.mp mem]
    exact ⟨syllable, single⟩

/-- What a code point comes apart into is not taken apart further. -/
theorem isSingle_of_mem_decompose {code part : Nat} (mem : part ∈ decompose pairDepth code) :
    IsSingle part := by
  cases outer : isPair code with
  | false => exact isSingle_of_mem outer mem
  | true =>
    obtain ⟨first, second, pair⟩ := exists_of_isPair outer
    rw [pairDepth, decompose_pair pair, List.mem_append] at mem
    rcases mem with mem | mem
    · cases inner : isPair first with
      | false => exact isSingle_of_mem inner mem
      | true =>
        obtain ⟨a, b, nested⟩ := exists_of_isPair inner
        obtain ⟨ha, hb⟩ := (RegularPair.of_mem pair).first_parts nested
        rw [decompose_pair nested, List.mem_append] at mem
        exact mem.elim (isSingle_of_mem ha) (isSingle_of_mem hb)
    · exact isSingle_of_mem (RegularPair.of_mem pair).second_single mem

/-- A part is the code point itself, or one that composing makes. -/
theorem mem_decompose {code part depth : Nat} (mem : part ∈ decompose depth code) :
    part = code ∨ (IsMade part ∧ part.isValidChar) := by
  induction depth generalizing code with
  | zero => exact .inl (List.mem_singleton.mp mem)
  | succ depth ih =>
    rw [decompose] at mem
    split at mem
    · rename_i parts syllable
      have := mem_splitSyllable syllable part mem
      exact .inr ⟨⟨by omega, fun h => by unfold IsCapitalCode at h; omega⟩, .inl (by omega)⟩
    · split at mem
      · rename_i first second pair
        have regular := RegularPair.of_mem (pairTable_get?.mp pair)
        rcases List.mem_append.mp mem with mem | mem
        · rcases ih mem with rfl | made
          · exact .inr ⟨regular.first_made, regular.valid.2.1⟩
          · exact .inr made
        · rcases ih mem with rfl | made
          · have high := regular.second_high
            exact .inr ⟨⟨by omega, fun h => by unfold IsCapitalCode at h; omega⟩,
              regular.valid.2.2⟩
          · exact .inr made
      · exact .inl (List.mem_singleton.mp mem)

/-! ## Characters -/

/-- What a character comes apart into. -/
def parts (c : Char) : List Char := (decompose pairDepth c.toNat).map Char.ofNat

theorem composed_eq (text : List Char) :
    composed text = composeOrdered (orderMarks [] (text.flatMap parts)) := rfl

theorem IsSingle.parts {c : Char} (h : IsSingle c.toNat) : parts c = [c] := by
  rw [Domain.parts, h.decompose, List.map_singleton, Char.ofNat_toNat]

/-- No character of a text is taken apart. -/
def IsApart (text : List Char) : Prop := ∀ c ∈ text, parts c = [c]

theorem IsApart.flatMap {text : List Char} (h : IsApart text) : text.flatMap parts = text := by
  induction text with
  | nil => rfl
  | cons c text ih =>
    obtain ⟨of_c, h⟩ := List.forall_mem_cons.mp h
    rw [List.flatMap_cons, of_c, ih h, List.singleton_append]

theorem IsApart.reverse {text : List Char} (h : IsApart text) : IsApart text.reverse :=
  fun c mem => h c (List.mem_reverse.mp mem)

/-- What a text comes apart into is not taken apart further. -/
theorem isApart_flatMap (text : List Char) : IsApart (text.flatMap parts) := by
  intro c mem
  obtain ⟨whole, _, mem⟩ := List.mem_flatMap.mp mem
  obtain ⟨part, inside, rfl⟩ := List.mem_map.mp mem
  refine IsSingle.parts ?_
  rw [toNat_ofNat]
  split
  · exact isSingle_of_mem_decompose inside
  · exact ⟨rfl, by decide +kernel⟩

theorem parts_ofNat {code : Nat} (valid : code.isValidChar) :
    parts (Char.ofNat code) = (decompose pairDepth code).map Char.ofNat := by
  rw [parts, toNat_ofNat, if_pos valid]

theorem decompose_syllable {code : Nat} (inside : 0xAC00 ≤ code ∧ code < 0xD7A4) (depth : Nat) :
    decompose (depth + 1) code =
      [0x1100 + (code - 0xAC00) / 588, 0x1161 + (code - 0xAC00) / 28 % 21] ++
        if (code - 0xAC00) % 28 = 0 then [] else [0x11A7 + (code - 0xAC00) % 28] := by
  rw [decompose, splitSyllable_eq, if_pos inside]

theorem joinSyllable_eq (a b : Nat) :
    joinSyllable a b =
      if 0x1100 ≤ a ∧ a < 0x1113 ∧ 0x1161 ≤ b ∧ b < 0x1176 then
        some (0xAC00 + ((a - 0x1100) * 21 + (b - 0x1161)) * 28)
      else if 0xAC00 ≤ a ∧ a < 0xD7A4 ∧ (a - 0xAC00) % 28 = 0 ∧ 0x11A7 < b ∧ b < 0x11C3 then
        some (a + (b - 0x11A7))
      else none := rfl

/-- A syllable comes apart into what it is joined from. -/
theorem decompose_joinSyllable {a b code : Nat} (h : joinSyllable a b = some code) :
    decompose pairDepth code = decompose pairDepth a ++ decompose pairDepth b ∧
      0xAC00 ≤ code ∧ code < 0xD7A4 := by
  rw [joinSyllable_eq] at h
  split at h
  · rename_i letters
    obtain rfl := Option.some.inj h
    have inside : 0xAC00 ≤ 0xAC00 + ((a - 0x1100) * 21 + (b - 0x1161)) * 28 ∧
        0xAC00 + ((a - 0x1100) * 21 + (b - 0x1161)) * 28 < 0xD7A4 := by omega
    refine ⟨?_, inside⟩
    have ha : IsSingle a := isSingle_letter (by omega)
    have hb : IsSingle b := isSingle_letter (by omega)
    rw [ha.decompose, hb.decompose, pairDepth, decompose_syllable inside, if_pos (by omega)]
    simp only [List.cons_append, List.nil_append, List.cons.injEq, and_true]
    omega
  · split at h
    · rename_i open_syllable
      obtain rfl := Option.some.inj h
      have inside : 0xAC00 ≤ a + (b - 0x11A7) ∧ a + (b - 0x11A7) < 0xD7A4 := by omega
      refine ⟨?_, inside⟩
      have hb : IsSingle b := isSingle_letter (by omega)
      rw [hb.decompose, pairDepth, decompose_syllable inside, decompose_syllable (by omega),
        if_neg (by omega), if_pos (by omega)]
      simp only [List.cons_append, List.nil_append, List.cons.injEq, and_true]
      omega
    · cases h

/-- Two characters that are joined come apart again. -/
theorem parts_of_compose? {a b joined : Char} (h : compose? a b = some joined) :
    parts joined = parts a ++ parts b := by
  unfold compose? at h
  split at h
  · rename_i code syllable
    obtain ⟨apart, low, high⟩ := decompose_joinSyllable syllable
    cases h
    rw [parts_ofNat (.inl (by omega)), apart, List.map_append]
    rfl
  · obtain ⟨code, found, rfl⟩ := Option.map_eq_some_iff.mp h
    have pair := mem_of_composite found
    rw [parts_ofNat (RegularPair.of_mem pair).valid.1, decompose_depth pair, List.map_append]
    rfl

/-! ## Composing once -/

/-- What becomes of a character after a base and marks. -/
theorem composeAfter_cases (base : Char) (marks : List Char) (c : Char) :
    (∃ joined, compose? base c = some joined ∧ reaches marks c = true ∧
      ∀ rest, composeAfter base marks (c :: rest) = composeAfter joined marks rest) ∨
    (combiningClass c = 0 ∧ ∀ rest, composeAfter base marks (c :: rest) =
      base :: marks.reverse ++ composeAfter c [] rest) ∨
    (combiningClass c ≠ 0 ∧ ∀ rest, composeAfter base marks (c :: rest) =
      composeAfter base (c :: marks) rest) := by
  cases found : if reaches marks c then compose? base c else none with
  | some joined =>
    obtain ⟨reached, joins⟩ := Option.ite_none_right_eq_some.mp found
    exact .inl ⟨joined, joins, reached, fun rest => by rw [composeAfter, found]⟩
  | none =>
    refine .inr ?_
    by_cases is_base : combiningClass c = 0
    · exact .inl ⟨is_base, fun rest => by rw [composeAfter, found]; exact if_pos is_base⟩
    · exact .inr ⟨is_base, fun rest => by rw [composeAfter, found]; exact if_neg is_base⟩

/-- Composing only moves marks over marks of other classes. -/
theorem alike_composeAfter {base : Char} {marks rest : List Char} {last : Nat}
    (stacked : Stacked last marks) (order : InOrder last rest) (apart_marks : IsApart marks)
    (apart : IsApart rest) :
    Alike ((composeAfter base marks rest).flatMap parts)
      (parts base ++ (marks.reverse ++ rest)) := by
  induction rest generalizing base marks last with
  | nil =>
    rw [composeAfter, List.flatMap_cons, List.append_nil, apart_marks.reverse.flatMap]
    exact .refl _
  | cons c rest ih =>
    obtain ⟨apart_c, apart⟩ := List.forall_mem_cons.mp apart
    obtain ⟨in_order, order⟩ := order
    rcases composeAfter_cases base marks c with
      ⟨joined, found, reached, eq⟩ | ⟨is_base, eq⟩ | ⟨is_mark, eq⟩
    · obtain ⟨stacked, moved⟩ := stacked.reach reached rest
      have := @ih joined _ _ stacked order apart_marks apart
      rw [parts_of_compose? found, apart_c, List.append_assoc] at this
      rw [eq]
      exact this.trans (moved.append _)
    · have := @ih c _ _ (Stacked.nil _) order nofun apart
      rw [apart_c] at this
      rw [eq, List.cons_append, List.flatMap_cons, List.flatMap_append, apart_marks.reverse.flatMap]
      exact (this.append _).append _
    · have pushed := stacked.push is_mark (in_order.resolve_left is_mark)
      have := @ih base _ _ pushed order (List.forall_mem_cons.mpr ⟨apart_c, apart_marks⟩) apart
      rw [List.reverse_cons, List.append_assoc, List.singleton_append] at this
      rwa [eq]

theorem composeOrdered_base {c : Char} (base : combiningClass c = 0) (rest : List Char) :
    composeOrdered (c :: rest) = composeAfter c [] rest :=
  (composeOrdered.eq_2 c rest).trans (if_pos base)

theorem composeOrdered_mark {c : Char} (mark : combiningClass c ≠ 0) (rest : List Char) :
    composeOrdered (c :: rest) = c :: composeOrdered rest :=
  (composeOrdered.eq_2 c rest).trans (if_neg mark)

theorem alike_composeOrdered {text : List Char} {last : Nat} (order : InOrder last text)
    (apart : IsApart text) : Alike ((composeOrdered text).flatMap parts) text := by
  induction text generalizing last with
  | nil => exact .refl _
  | cons c text ih =>
    obtain ⟨apart_c, apart⟩ := List.forall_mem_cons.mp apart
    by_cases base : combiningClass c = 0
    · have := @alike_composeAfter c _ _ _ (Stacked.nil _) order.2 nofun apart
      rwa [apart_c, ← composeOrdered_base base] at this
    · rw [composeOrdered_mark base, List.flatMap_cons, apart_c]
      exact (ih order.2 apart).cons c

/-- Composing once is enough. -/
theorem composed_composed (text : List Char) : composed (composed text) = composed text := by
  have order := inOrder_orderMarks [] (text.flatMap parts)
  have apart : IsApart (orderMarks [] (text.flatMap parts)) := fun c mem =>
    isApart_flatMap text c ((mem_orderMarks.mp mem).resolve_left List.not_mem_nil)
  rw [composed_eq (composed text), composed_eq text, alike_composeOrdered order apart [],
    orderMarks_of_inOrder order]

/-! ## Characters of a composed text -/

theorem isMade_of_compose? {a b joined : Char} (h : compose? a b = some joined) :
    IsMade joined.toNat := by
  unfold compose? at h
  split at h
  · rename_i code syllable
    obtain ⟨-, low, high⟩ := decompose_joinSyllable syllable
    obtain rfl := Option.some.inj h
    rw [toNat_ofNat, if_pos (.inl (by omega))]
    exact ⟨by omega, fun capital => by unfold IsCapitalCode at capital; omega⟩
  · obtain ⟨code, found, rfl⟩ := Option.map_eq_some_iff.mp h
    have regular := RegularPair.of_mem (mem_of_composite found)
    have high := regular.code_high
    rw [toNat_ofNat, if_pos regular.valid.1]
    exact ⟨by omega, fun capital => by unfold IsCapitalCode at capital; omega⟩

theorem forall_composeAfter {P : Char → Prop} (made : ∀ c, IsMade c.toNat → P c) {base : Char}
    {marks rest : List Char} (front : ∀ c ∈ base :: marks, P c) (of_rest : ∀ c ∈ rest, P c) :
    ∀ c ∈ composeAfter base marks rest, P c := by
  induction rest generalizing base marks with
  | nil => simpa [composeAfter] using front
  | cons d rest ih =>
    obtain ⟨of_d, of_rest⟩ := List.forall_mem_cons.mp of_rest
    obtain ⟨of_base, of_marks⟩ := List.forall_mem_cons.mp front
    rcases composeAfter_cases base marks d with ⟨joined, found, -, eq⟩ | ⟨-, eq⟩ | ⟨-, eq⟩ <;>
      rw [eq]
    · exact ih (List.forall_mem_cons.mpr ⟨made joined (isMade_of_compose? found), of_marks⟩) of_rest
    · have := @ih d [] (List.forall_mem_singleton.mpr of_d) of_rest
      exact fun c mem => (List.mem_append.mp mem).elim (by simpa using front c) (this c)
    · exact ih (List.forall_mem_cons.mpr ⟨of_base, List.forall_mem_cons.mpr ⟨of_d, of_marks⟩⟩)
        of_rest

theorem forall_composeOrdered {P : Char → Prop} (made : ∀ c, IsMade c.toNat → P c)
    {text : List Char} (of_text : ∀ c ∈ text, P c) : ∀ c ∈ composeOrdered text, P c := by
  induction text with
  | nil => exact of_text
  | cons d text ih =>
    obtain ⟨of_d, of_text⟩ := List.forall_mem_cons.mp of_text
    by_cases base : combiningClass d = 0
    · rw [composeOrdered_base base]
      exact forall_composeAfter made (List.forall_mem_singleton.mpr of_d) of_text
    · rw [composeOrdered_mark base]
      exact List.forall_mem_cons.mpr ⟨of_d, ih of_text⟩

/-- A character of a composed text is one of the text, or one that composing makes. -/
theorem mem_composed {text : List Char} : ∀ c ∈ composed text, c ∈ text ∨ IsMade c.toNat := by
  refine forall_composeOrdered (fun c made => .inr made) fun c mem => ?_
  have mem := (mem_orderMarks.mp mem).resolve_left List.not_mem_nil
  obtain ⟨whole, inside, mem⟩ := List.mem_flatMap.mp mem
  obtain ⟨part, of_whole, rfl⟩ := List.mem_map.mp mem
  rcases mem_decompose of_whole with rfl | ⟨made, valid⟩
  · rw [Char.ofNat_toNat]
    exact .inl inside
  · rw [toNat_ofNat, if_pos valid]
    exact .inr made

/-! ## Labels and ASCII -/

theorem combiningRows_not_ascii :
    combiningTable.toList.all (fun range => 0x80 ≤ range.first) = true := by decide +kernel

theorem combiningClass_ascii {c : Char} (ascii : c.toNat < 0x80) : combiningClass c = 0 := by
  unfold combiningClass
  cases h : combiningTable.get? c.toNat with
  | none => rfl
  | some value =>
    obtain ⟨range, found, -⟩ := Option.map_eq_some_iff.mp h
    obtain ⟨mem, first, -⟩ := CodeTable.of_find? found
    have := of_decide_eq_true (List.all_eq_true.mp combiningRows_not_ascii range mem)
    omega

/-- Nothing is joined with an ASCII character after it. -/
theorem compose?_ascii {a b : Char} (ascii : b.toNat < 0x80) : compose? a b = none := by
  unfold compose?
  rw [joinSyllable_eq, if_neg (by omega), if_neg (by omega)]
  cases h : composite[(a.toNat, b.toNat)]? with
  | none => rfl
  | some code =>
    have := (RegularPair.of_mem (mem_of_composite h)).second_high
    omega

/-- Nothing is joined with a dot before it. -/
theorem compose?_dot (b : Char) : compose? '.' b = none := by
  unfold compose?
  rw [joinSyllable_eq, if_neg fun h => absurd h.1 (by decide),
    if_neg fun h => absurd h.1 (by decide)]
  cases h : composite[('.'.toNat, b.toNat)]? with
  | none => rfl
  | some code => exact absurd (RegularPair.of_mem (mem_of_composite h)).first_made (by decide)

theorem parts_ascii {c : Char} (ascii : c.toNat < 0x80) : parts c = [c] := by
  refine IsSingle.parts ⟨splitSyllable_none (by omega), Bool.eq_false_iff.mpr fun pair => ?_⟩
  obtain ⟨first, second, mem⟩ := exists_of_isPair pair
  have := (RegularPair.of_mem mem).code_high
  omega

theorem composeAfter_ascii {base c : Char} (ascii : c.toNat < 0x80) (marks rest : List Char) :
    composeAfter base marks (c :: rest) = base :: marks.reverse ++ composeAfter c [] rest := by
  rcases composeAfter_cases base marks c with ⟨joined, found, -⟩ | ⟨-, eq⟩ | ⟨mark, -⟩
  · rw [compose?_ascii ascii] at found
    cases found
  · exact eq rest
  · exact absurd (combiningClass_ascii ascii) mark

/-- An ASCII text is composed. -/
theorem composed_ascii {text : List Char} (ascii : ∀ c ∈ text, c.toNat < 0x80) :
    composed text = text := by
  have after : ∀ (base : Char) (rest : List Char), (∀ c ∈ rest, c.toNat < 0x80) →
      composeAfter base [] rest = base :: rest := by
    intro base rest ascii
    induction rest generalizing base with
    | nil => rfl
    | cons c rest ih =>
      obtain ⟨of_c, ascii⟩ := List.forall_mem_cons.mp ascii
      rw [composeAfter_ascii of_c, ih c ascii]
      rfl
  have in_order : ∀ (text : List Char) (last : Nat), (∀ c ∈ text, c.toNat < 0x80) →
      InOrder last text := by
    intro text last ascii
    induction text generalizing last with
    | nil => trivial
    | cons c text ih =>
      obtain ⟨of_c, ascii⟩ := List.forall_mem_cons.mp ascii
      exact .base (combiningClass_ascii of_c) (ih 0 ascii)
  have apart : IsApart text := fun c mem => parts_ascii (ascii c mem)
  rw [composed_eq, apart.flatMap, orderMarks_of_inOrder (in_order text 0 ascii)]
  cases text with
  | nil => rfl
  | cons c text =>
    obtain ⟨of_c, ascii⟩ := List.forall_mem_cons.mp ascii
    rw [composeOrdered_base (combiningClass_ascii of_c), after c text ascii]

/-- A dot is not joined with what is after it. -/
theorem composeAfter_dot (marks rest : List Char) :
    composeAfter '.' marks rest = '.' :: marks.reverse ++ composeOrdered rest := by
  induction rest generalizing marks with
  | nil => rw [composeAfter, composeOrdered, List.append_nil]
  | cons c rest ih =>
    rcases composeAfter_cases '.' marks c with ⟨joined, found, -⟩ | ⟨base, eq⟩ | ⟨mark, eq⟩
    · rw [compose?_dot] at found
      cases found
    · rw [eq, composeOrdered_base base]
    · rw [eq, ih, composeOrdered_mark mark]
      simp

theorem composeAfter_append (base : Char) (marks s t : List Char) :
    composeAfter base marks (s ++ '.' :: t) =
      composeAfter base marks s ++ '.' :: composeOrdered t := by
  induction s generalizing base marks with
  | nil =>
    rw [List.nil_append, composeAfter_ascii (by decide), composeAfter_dot, composeAfter]
    rfl
  | cons c s ih =>
    rw [List.cons_append]
    rcases composeAfter_cases base marks c with ⟨joined, -, -, eq⟩ | ⟨-, eq⟩ | ⟨-, eq⟩
    · rw [eq, eq, ih]
    · rw [eq, eq, ih, List.append_assoc]
    · rw [eq, eq, ih]

theorem composeOrdered_append (s t : List Char) :
    composeOrdered (s ++ '.' :: t) = composeOrdered s ++ '.' :: composeOrdered t := by
  induction s with
  | nil =>
    rw [List.nil_append, composeOrdered_base (combiningClass_ascii (by decide)), composeAfter_dot,
      composeOrdered.eq_1]
    rfl
  | cons c s ih =>
    rw [List.cons_append]
    by_cases base : combiningClass c = 0
    · rw [composeOrdered_base base, composeOrdered_base base, composeAfter_append]
    · rw [composeOrdered_mark base, composeOrdered_mark base, ih, List.cons_append]

theorem composed_append (s t : List Char) :
    composed (s ++ '.' :: t) = composed s ++ '.' :: composed t := by
  rw [composed_eq, List.flatMap_append, List.flatMap_cons, parts_ascii (by decide),
    List.singleton_append, orderMarks_append (combiningClass_ascii (by decide)),
    composeOrdered_append]
  rfl

theorem not_dot_mem_composed {text : List Char} (h : '.' ∉ text) : '.' ∉ composed text :=
  fun mem => (mem_composed '.' mem).elim h (by decide)

/-- The labels of a text are composed one by one. -/
theorem composed_splitOn (text : List Char) :
    (composed text).splitOn '.' = (text.splitOn '.').map composed := by
  induction n : text.length using Nat.strongRecOn generalizing text with
  | ind n ih =>
    by_cases dot : '.' ∈ text
    · obtain ⟨label, rest, rfl, no_dot⟩ := List.eq_append_cons_of_mem dot
      rw [composed_append, List.splitOn_append_cons_self_of_not_mem (not_dot_mem_composed no_dot),
        List.splitOn_append_cons_self_of_not_mem no_dot, List.map_cons,
        ih rest.length (by simp [← n]; omega) rest rfl]
    · rw [List.splitOn_eq_singleton dot, List.splitOn_eq_singleton (not_dot_mem_composed dot),
        List.map_singleton]

end WlanAdmin.Domain
