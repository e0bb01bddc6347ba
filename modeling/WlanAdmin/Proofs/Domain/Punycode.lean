import WlanAdmin.Proofs.Domain.Mapping
import WlanAdmin.Proofs.Text.Digits
import WlanAdmin.Domain.Punycode

/-!
# WlanAdmin.Proofs.Domain.Punycode

What is written of a label is read back as that label, whatever characters it holds.

A draft and the reading of what it has written go through the label together: after the characters
up to some place in the pass for a code point, the reading holds the characters that were passed
over with that code point or a lower one, and those still to come with a lower one. The number in
the draft is how far the next place is from the last.

* `readDeltas_writeDelta` : the digits of a number are read as that number.
* `Follows.pass`, `Follows.turn`, `Follows.writeCodes` : the two stay together.
* `decodePunycode_encodePunycode` : the label is read back.
* `encodePunycode_mem`, `decodePunycode_ascii` : where the ASCII characters come from.
-/

namespace WlanAdmin.Domain

/-! ## Digits -/

/-- The characters that numbers are written in. -/
def IsPunyDigit (c : Char) : Prop := ('a' ≤ c ∧ c ≤ 'z') ∨ ('0' ≤ c ∧ c ≤ '9')

instance (c : Char) : Decidable (IsPunyDigit c) := inferInstanceAs (Decidable (_ ∨ _))

theorem IsPunyDigit.ne_hyphen {c : Char} (h : IsPunyDigit c) : c ≠ '-' := by
  rintro rfl
  exact absurd h (by decide)

theorem punyDigitValue?_punyDigit :
    ∀ n < 36, punyDigitValue? (punyDigit n) = some n := by decide

theorem isPunyDigit_punyDigit : ∀ n < 36, IsPunyDigit (punyDigit n) := by decide

/-- The digit at a position, and the number that is left, of a number that goes on. -/
theorem nextDigit_lt (position bias number : Nat) :
    threshold position bias + (number - threshold position bias) % (36 - threshold position bias)
      < 36 := by
  have h := threshold_le position bias
  have := Nat.mod_lt (number - threshold position bias) (y := 36 - threshold position bias) (by omega)
  omega

theorem isPunyDigit_of_mem_writeDelta {bias position number : Nat} :
    ∀ c ∈ writeDelta bias position number, IsPunyDigit c := by
  fun_induction writeDelta bias position number with
  | case1 position number t last =>
    intro c mem
    rw [List.mem_singleton.mp mem]
    exact isPunyDigit_punyDigit _ (by have := threshold_le position bias; omega)
  | case2 position number t more ih =>
    intro c mem
    rcases List.mem_cons.mp mem with rfl | mem
    · exact isPunyDigit_punyDigit _ (nextDigit_lt position bias number)
    · exact ih c mem

/-- What is read after a character is put in. -/
def readPlaced (placed : Option PunyReading) (rest : List Char) : Option (List Char) :=
  match placed with
  | none => none
  | some state => readDeltas state rest

theorem readDeltas_cons {state : PunyReading} {n : Nat} (digit : n < 36) (rest : List Char) :
    readDeltas state (punyDigit n :: rest) =
      if n < threshold state.position state.bias then
        readPlaced { state with index := state.index + n * state.worth }.place rest
      else readDeltas
        { state with
          index := state.index + n * state.worth
          worth := state.worth * (36 - threshold state.position state.bias)
          position := state.position + 36 } rest := by
  rw [readDeltas, punyDigitValue?_punyDigit n digit]
  rfl

/-- The digits of a number are read as that number, whatever comes after them. -/
theorem readDeltas_writeDelta (state : PunyReading) (number : Nat) (rest : List Char) :
    readDeltas state (writeDelta state.bias state.position number ++ rest) =
      readPlaced { state with index := state.index + number * state.worth }.place rest := by
  induction number using Nat.strongRecOn generalizing state with
  | ind number ih =>
    have low := threshold_pos state.position state.bias
    have high := threshold_le state.position state.bias
    rw [writeDelta]
    split
    next last =>
      rw [List.singleton_append, readDeltas_cons (by omega), if_pos last]
    next more =>
      let t := threshold state.position state.bias
      have rest_lt : (number - t) / (36 - t) < number :=
        Nat.lt_of_le_of_lt (Nat.div_le_self _ _) (by omega)
      have value : t + (number - t) % (36 - t) + (36 - t) * ((number - t) / (36 - t)) = number := by
        rw [Nat.add_assoc, Nat.mod_add_div]
        omega
      have index : state.index + (t + (number - t) % (36 - t)) * state.worth +
          (number - t) / (36 - t) * (state.worth * (36 - t)) = state.index + number * state.worth := by
        rw [Nat.add_assoc, ← Nat.mul_assoc, Nat.mul_right_comm, ← Nat.add_mul,
          Nat.mul_comm _ (36 - t), value]
      rw [List.cons_append, readDeltas_cons (nextDigit_lt ..), if_neg (by omega)]
      refine (ih _ rest_lt { state with
        index := _, worth := state.worth * (36 - t), position := state.position + 36 }).trans ?_
      simp only [PunyReading.place]
      rw [index]

/-! ## The draft and what is read of it -/

/-- The characters of a label that are placed in the pass for a code point, between `before` and
`after`: those up to the code point that were passed over, and the lower ones still to come. -/
def placedIn (code : Nat) (before after : List Char) : List Char :=
  before.filter (·.toNat ≤ code) ++ after.filter (·.toNat < code)

/-- A draft between `before` and `after` in the pass for a code point, and the reading of what it
has written. -/
structure Follows (start : PunyReading) (ascii code : Nat) (before after : List Char)
    (draft : PunyDraft) (reading : PunyReading) : Prop where
  reads : ∀ rest, readDeltas start (draft.written ++ rest) = readDeltas reading rest
  digits : ∀ c ∈ draft.written, IsPunyDigit c
  label : reading.label = placedIn code before after
  placed : draft.placed = reading.label.length
  least : ascii ≤ draft.placed
  /-- The number in the draft leads from the last place to this one. -/
  delta : reading.index + draft.delta =
    (code - reading.code) * (draft.placed + 1) + (before.filter (·.toNat ≤ code)).length
  code_le : reading.code ≤ code
  bias : reading.bias = draft.bias
  isFirst : reading.isFirst = (draft.placed == ascii)
  fresh : reading.before = reading.index ∧ reading.worth = 1 ∧ reading.position = 36

section Follows

variable {start : PunyReading} {ascii code : Nat} {before after : List Char} {draft : PunyDraft}
  {reading : PunyReading}

/-- The reading after the number in the draft is written and read. -/
theorem Follows.place {c : Char} (h : Follows start ascii c.toNat before (c :: after) draft reading)
    (rest : List Char) :
    readDeltas reading (writeDelta draft.bias 36 draft.delta ++ rest) =
      readDeltas
        { label := placedIn c.toNat (before ++ [c]) after
          code := c.toNat
          index := ((before ++ [c]).filter (·.toNat ≤ c.toNat)).length
          before := ((before ++ [c]).filter (·.toNat ≤ c.toNat)).length
          bias := nextBias draft.delta (draft.placed + 1) (draft.placed == ascii)
          isFirst := false } rest := by
  obtain ⟨at_before, worth, position⟩ := h.fresh
  have within : (before.filter (·.toNat ≤ c.toNat)).length < draft.placed + 1 := by
    rw [h.placed, h.label, placedIn, List.length_append]
    omega
  have code_eq : reading.code + (reading.index + draft.delta) / (draft.placed + 1) = c.toNat := by
    rw [h.delta, Nat.mul_comm, Nat.mul_add_div (Nat.succ_pos _), Nat.div_eq_of_lt within]
    have := h.code_le
    omega
  have index_eq : (reading.index + draft.delta) % (draft.placed + 1) =
      (before.filter (·.toNat ≤ c.toNat)).length := by
    rw [h.delta, Nat.mul_comm, Nat.mul_add_mod, Nat.mod_eq_of_lt within]
  have valid : c.toNat.isValidChar := c.valid
  have label : reading.label.take (before.filter (·.toNat ≤ c.toNat)).length ++
      c :: reading.label.drop (before.filter (·.toNat ≤ c.toNat)).length =
      placedIn c.toNat (before ++ [c]) after := by
    rw [h.label]
    simp [placedIn, List.filter_append]
  have read := readDeltas_writeDelta reading draft.delta rest
  rw [h.bias, position] at read
  rw [read, worth, Nat.mul_one]
  simp only [PunyReading.place, readPlaced, ← h.placed, code_eq, index_eq, valid, if_true,
    Char.ofNat_toNat, at_before, Nat.add_sub_cancel_left, h.isFirst, label]
  simp [List.filter_append]

theorem PunyDraft.pass_lower {c : Char} (h : c.toNat < code) :
    draft.pass ascii code c = { draft with delta := draft.delta + 1 } := if_pos h

theorem PunyDraft.pass_same {c : Char} :
    draft.pass ascii c.toNat c =
      { written := draft.written ++ writeDelta draft.bias 36 draft.delta
        delta := 0
        bias := nextBias draft.delta (draft.placed + 1) (draft.placed == ascii)
        placed := draft.placed + 1 } := by
  simp [pass]

theorem PunyDraft.pass_higher {c : Char} (h : code < c.toNat) : draft.pass ascii code c = draft := by
  rw [pass, if_neg (by omega), if_neg (by omega)]

/-- One character is passed over. -/
theorem Follows.pass {c : Char} (h : Follows start ascii code before (c :: after) draft reading) :
    ∃ reading', Follows start ascii code (before ++ [c]) after (draft.pass ascii code c)
      reading' := by
  rcases Nat.lt_trichotomy c.toNat code with lower | same | higher
  · have label : placedIn code (before ++ [c]) after = placedIn code before (c :: after) := by
      simp [placedIn, List.filter_append, lower, Nat.le_of_lt lower]
    have counted : ((before ++ [c]).filter (·.toNat ≤ code)).length =
        (before.filter (·.toNat ≤ code)).length + 1 := by
      simp [List.filter_append, Nat.le_of_lt lower]
    rw [PunyDraft.pass_lower lower]
    exact ⟨reading, { h with
      label := h.label.trans label.symm
      delta := by rw [counted, ← Nat.add_assoc, ← Nat.add_assoc, h.delta] }⟩
  · subst same
    rw [PunyDraft.pass_same]
    refine ⟨_, {
      reads := fun rest => by rw [List.append_assoc, h.reads]; exact h.place rest
      digits := fun d mem => ?_, label := rfl, placed := ?_, least := Nat.le_succ_of_le h.least
      delta := ?_, code_le := Nat.le_refl _, bias := rfl, isFirst := ?_, fresh := ⟨rfl, rfl, rfl⟩ }⟩
    · exact (List.mem_append.mp mem).elim (h.digits d) (isPunyDigit_of_mem_writeDelta d)
    · rw [h.placed, h.label]
      simp [placedIn, List.filter_append]
      omega
    · rw [Nat.sub_self, Nat.zero_mul, Nat.zero_add, Nat.add_zero]
    · exact (beq_eq_false_iff_ne.mpr (Nat.ne_of_gt (Nat.lt_succ_of_le h.least))).symm
  · have label : placedIn code (before ++ [c]) after = placedIn code before (c :: after) := by
      simp [placedIn, List.filter_append, Nat.not_le_of_lt higher, Nat.not_lt_of_lt higher]
    have counted : (before ++ [c]).filter (·.toNat ≤ code) = before.filter (·.toNat ≤ code) := by
      simp [List.filter_append, Nat.not_le_of_lt higher]
    rw [PunyDraft.pass_higher higher]
    exact ⟨reading, { h with label := h.label.trans label.symm, delta := counted ▸ h.delta }⟩

/-- All characters to come are passed over. -/
theorem Follows.passAll (h : Follows start ascii code before after draft reading) :
    ∃ reading', Follows start ascii code (before ++ after) []
      (after.foldl (PunyDraft.pass ascii code) draft) reading' := by
  induction after generalizing before draft reading with
  | nil => exact ⟨reading, by rwa [List.append_nil]⟩
  | cons c after ih =>
    obtain ⟨_, next⟩ := h.pass
    have := ih next
    rwa [List.append_assoc] at this

/-- From the end of one pass to the start of the next. -/
theorem Follows.turn {label : List Char} (h : Follows start ascii code label [] draft reading) :
    Follows start ascii (code + 1) [] label { draft with delta := draft.delta + 1 } reading := by
  have all_placed : (label.filter (·.toNat ≤ code)).length = draft.placed := by
    rw [h.placed, h.label, placedIn, List.filter_nil, List.append_nil]
  refine { h with label := ?_, code_le := Nat.le_succ_of_le h.code_le, delta := ?_ }
  · rw [h.label]
    simp only [placedIn, Nat.lt_succ_iff, List.filter_nil, List.nil_append, List.append_nil]
  · have := h.delta
    rw [all_placed] at this
    rw [Nat.succ_sub h.code_le, Nat.succ_mul, List.filter_nil, List.length_nil]
    dsimp only
    omega

/-- On to the pass for a later code point, when the label has none in between. -/
theorem Follows.skip {label : List Char} {later : Nat}
    (h : Follows start ascii code [] label draft reading) (le : code ≤ later)
    (gap : ∀ c ∈ label, code ≤ c.toNat → later ≤ c.toNat) :
    Follows start ascii later [] label
      { draft with delta := draft.delta + (later - code) * (draft.placed + 1) } reading := by
  have same : label.filter (·.toNat < code) = label.filter (·.toNat < later) :=
    List.filter_congr fun c mem => decide_eq_decide.mpr (by have := gap c mem; omega)
  refine { h with label := ?_, code_le := Nat.le_trans h.code_le le, delta := ?_ }
  · rw [h.label, placedIn, placedIn, same, List.filter_nil, List.filter_nil]
  · have sum : later - reading.code = code - reading.code + (later - code) := by
      have := h.code_le
      omega
    have := h.delta
    rw [sum, Nat.add_mul, List.filter_nil, List.length_nil]
    rw [List.filter_nil, List.length_nil] at this
    dsimp only
    omega

end Follows

/-! ## The whole label -/

theorem pairwise_eraseDups {codes : List Nat} (h : codes.Pairwise (· ≤ ·)) :
    codes.eraseDups.Pairwise (· < ·) := by
  induction n : codes.length using Nat.strongRecOn generalizing codes with
  | ind n ih =>
    cases codes with
    | nil => exact .nil
    | cons code codes =>
      obtain ⟨least, rest⟩ := List.pairwise_cons.mp h
      rw [List.eraseDups_cons]
      refine .cons (fun other mem => ?_) (ih _ ?_ (rest.filter _) rfl)
      · obtain ⟨mem, different⟩ := List.mem_filter.mp (List.mem_eraseDups.mp mem)
        exact Nat.lt_of_le_of_ne (least other mem) fun same => by simp [same] at different
      · rw [← n, List.length_cons]
        exact Nat.lt_succ_of_le (List.length_filter_le ..)

/-- The passes for all code points from one on, when none of the label is left out. -/
theorem Follows.writeCodes {start : PunyReading} {label : List Char} {ascii : Nat}
    {codes : List Nat} {next : Nat} {draft : PunyDraft} {reading : PunyReading}
    (h : Follows start ascii next [] label draft reading) (ordered : codes.Pairwise (· < ·))
    (from_next : ∀ code ∈ codes, next ≤ code)
    (complete : ∀ c ∈ label, next ≤ c.toNat → c.toNat ∈ codes) :
    readDeltas start (Domain.writeCodes label ascii next codes draft).written = some label ∧
      ∀ c ∈ (Domain.writeCodes label ascii next codes draft).written, IsPunyDigit c := by
  induction codes generalizing next draft reading with
  | nil =>
    have all : reading.label = label := by
      rw [h.label, placedIn, List.filter_nil, List.nil_append, List.filter_eq_self]
      intro c mem
      exact decide_eq_true (Nat.lt_of_not_le fun le => List.not_mem_nil (complete c mem le))
    have read := h.reads []
    rw [List.append_nil, readDeltas, if_pos h.fresh.2.2, all] at read
    exact ⟨read, h.digits⟩
  | cons code codes ih =>
    obtain ⟨later, ordered⟩ := List.pairwise_cons.mp ordered
    have at_code := h.skip (from_next code List.mem_cons_self) fun c mem reached =>
      (List.mem_cons.mp (complete c mem reached)).elim (fun same => Nat.le_of_eq same.symm)
        fun mem => Nat.le_of_lt (later _ mem)
    obtain ⟨passed, after⟩ := at_code.passAll
    refine ih after.turn ordered later fun c mem reached => ?_
    rcases List.mem_cons.mp (complete c mem (by have := from_next code List.mem_cons_self; omega))
      with same | mem
    · omega
    · exact mem

/-- The numbers of a label. -/
theorem readDeltas_codes (label : List Char) :
    let ascii := label.filter (·.toNat < 0x80)
    let codes := ((label.map Char.toNat).filter (0x80 ≤ ·)).mergeSort.eraseDups
    let digits := (writeCodes label ascii.length 0x80 codes { placed := ascii.length }).written
    readDeltas { label := ascii } digits = some label ∧ ∀ c ∈ digits, IsPunyDigit c := by
  intro ascii codes digits
  have mem_codes : ∀ code, code ∈ codes ↔ code ∈ label.map Char.toNat ∧ 0x80 ≤ code := by
    simp [codes, List.mem_eraseDups, List.mem_mergeSort]
  have sorted := @List.pairwise_mergeSort Nat (fun a b => decide (a ≤ b))
    (by simpa using fun a b c => Nat.le_trans) (by simpa using Nat.le_total)
    ((label.map Char.toNat).filter (0x80 ≤ ·))
  refine @Follows.writeCodes _ _ _ _ _ _ { label := ascii } ?_
    (pairwise_eraseDups (sorted.imp of_decide_eq_true)) (fun code mem => ((mem_codes code).mp mem).2)
    fun c mem high => (mem_codes _).mpr ⟨List.mem_map_of_mem mem, high⟩
  exact {
    reads := fun rest => rfl, digits := nofun, label := rfl, placed := rfl, least := Nat.le_refl _
    delta := by simp, code_le := Nat.le_refl _, bias := rfl, isFirst := (beq_self_eq_true _).symm
    fresh := ⟨rfl, rfl, rfl⟩ }

/-- What comes after the last hyphen, if there is any. -/
theorem takeWhile_of_digits {digits : List Char} (h : ∀ c ∈ digits, IsPunyDigit c) :
    (digits.reverse.takeWhile (· != '-')).reverse = digits ∧
      ∀ front, ((front ++ '-' :: digits).reverse.takeWhile (· != '-')).reverse = digits := by
  have all : ∀ c ∈ digits.reverse, (c != '-') = true := fun c mem =>
    bne_iff_ne.mpr (h c (List.mem_reverse.mp mem)).ne_hyphen
  constructor
  · rw [takeWhile_eq_self all, List.reverse_reverse]
  · intro front
    rw [List.reverse_append, List.reverse_cons, List.append_assoc, List.takeWhile_append_of_pos all]
    simp

/-- A label is read back from its ASCII form. -/
theorem decodePunycode_encodePunycode (label : List Char) :
    decodePunycode (encodePunycode label) = some label := by
  obtain ⟨read, digits⟩ := readDeltas_codes label
  rw [encodePunycode]
  revert read digits
  generalize (writeCodes _ _ _ _ _).written = digits
  generalize label.filter (·.toNat < 0x80) = ascii
  intro read isDigit
  obtain ⟨alone, behind⟩ := takeWhile_of_digits isDigit
  cases ascii with
  | nil =>
    simp only [decodePunycode, List.isEmpty_nil, if_true, List.nil_append, alone, Nat.lt_irrefl,
      false_and, if_false]
    exact read
  | cons c ascii =>
    have shorter : digits.length < (c :: ascii ++ '-' :: digits).length := by simp; omega
    have front : (c :: ascii ++ '-' :: digits).take
        ((c :: ascii ++ '-' :: digits).length - digits.length - 1) = c :: ascii := by
      rw [show (c :: ascii ++ '-' :: digits).length - digits.length - 1 = (c :: ascii).length by
        simp; omega, List.take_left]
    rw [List.isEmpty_cons, if_neg Bool.false_ne_true, List.append_assoc, List.singleton_append,
      decodePunycode, behind, front]
    exact (if_pos ⟨shorter, List.cons_ne_nil _ _⟩).trans read

/-- The ASCII form of a label has the ASCII characters of the label, digits and hyphens. -/
theorem encodePunycode_mem {label : List Char} {c : Char} (mem : c ∈ encodePunycode label) :
    (c ∈ label ∧ c.toNat < 0x80) ∨ IsPunyDigit c ∨ c = '-' := by
  have digits := (readDeltas_codes label).2
  simp only [encodePunycode, List.mem_append] at mem
  rcases mem with (mem | mem) | mem
  · exact .inl (by simpa using mem)
  · split at mem
    · cases mem
    · exact .inr (.inr (List.mem_singleton.mp mem))
  · exact .inr (.inl (digits c mem))

/-! ## ASCII characters that are read -/

/-- Only characters that are not ASCII are put in. -/
theorem readDeltas_ascii {state : PunyReading} {digits label : List Char}
    (h : readDeltas state digits = some label) (high : 0x80 ≤ state.code) :
    ∀ c ∈ label, c.toNat < 0x80 → c ∈ state.label := by
  induction digits generalizing state with
  | nil =>
    simp only [readDeltas, Option.ite_none_right_eq_some, Option.some.injEq] at h
    rw [← h.2]
    exact fun c mem _ => mem
  | cons digit digits ih =>
    rw [readDeltas] at h
    split at h
    · cases h
    · rename_i value _
      dsimp only at h
      split at h
      · split at h
        · cases h
        · rename_i placed placing
          simp only [PunyReading.place, Option.ite_none_right_eq_some, Option.some.injEq] at placing
          obtain ⟨valid, rfl⟩ := placing
          intro c mem ascii
          have := ih h (Nat.le_add_right_of_le high) c mem ascii
          simp only [List.mem_append, List.mem_cons] at this
          rcases this with mem | rfl | mem
          · exact List.mem_of_mem_take mem
          · rw [toNat_ofNat, if_pos valid] at ascii
            exact absurd (Nat.le_add_right_of_le high) (Nat.not_le_of_lt ascii)
          · exact List.mem_of_mem_drop mem
      · intro c mem ascii
        exact ih h high c mem ascii

/-- The ASCII characters of a label are those of its ASCII form. -/
theorem decodePunycode_ascii {text label : List Char} (h : decodePunycode text = some label) :
    ∀ c ∈ label, c.toNat < 0x80 → c ∈ text := by
  rw [decodePunycode] at h
  intro c mem ascii
  split at h
  · exact List.mem_of_mem_take (readDeltas_ascii h (Nat.le_refl _) c mem ascii)
  · exact absurd (readDeltas_ascii h (Nat.le_refl _) c mem ascii) List.not_mem_nil

end WlanAdmin.Domain
