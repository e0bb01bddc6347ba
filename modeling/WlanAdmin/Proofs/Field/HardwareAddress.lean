import WlanAdmin.Field.HardwareAddress
import WlanAdmin.Proofs.Text.InTurn
import WlanAdmin.Proofs.Text.Numeral
import WlanAdmin.Proofs.Text.Utf8

/-!
# WlanAdmin.Proofs.Field.HardwareAddress

Which texts are hardware addresses, how they are written again, and what is wrong with all others.
Addresses are read octet by octet, texts are told apart character by character: a character that is
not ASCII has octets, but none that is a digit or a separator.

* `Pair`, `Spelling`, `Faulty` : addresses as a grammar, and the reason why a text is none.
* `readOctet?_eq_some_iff`     : two octets alone.
* `length_joined_iff`          : the length of a text tells the number of its parts.
* `readOctets_splitOn_iff`     : the parts between separators.
* `readBytes_cases`            : a text is spelled as an address, or at fault.
* `read_spelling`              : all of this together.
-/

namespace WlanAdmin
namespace HardwareAddress

/-! ## The grammar -/

/-- Two hexadecimal digits of either case, and the octet that they spell. -/
inductive Pair : List Char → UInt8 → Prop where
  | digits {a b : Char} {high low : Nat} : IsDigit 16 a high → IsDigit 16 b low →
      Pair [a, b] (UInt8.ofNat (16 * high + low))

/-- Six pairs of digits, with five separators between them that are all colons or all hyphens. -/
structure Spelling (text : String) (separator : Char) (pairs : List (List Char)) : Prop where
  joined : text.toList = [separator].intercalate pairs
  count : pairs.length = 6
  digits : ∀ pair ∈ pairs, ∃ octet, Pair pair octet
  separator : separator = ':' ∨ separator = '-'

/-- Why a text is no address, in the words of the error. The first reason that holds is given. -/
inductive Faulty (text : String) : (reason : String) → Prop where
  | length : (utf8 text).length ≠ 17 → Faulty text "expected six two-digit octets"
  | separator {third : UInt8} : (utf8 text).length = 17 → (utf8 text)[2]? = some third →
      third ≠ 0x3A → third ≠ 0x2D → Faulty text "expected ':' or '-' separators"
  | octet {third : UInt8} : (utf8 text).length = 17 → (utf8 text)[2]? = some third →
      third = 0x3A ∨ third = 0x2D → (∀ separator pairs, ¬ Spelling text separator pairs) →
      Faulty text "octets must be two hex digits"

inductive Separator : Char → UInt8 → Prop where
  | colon : Separator ':' 0x3A
  | hyphen : Separator '-' 0x2D

/-- A separator as it is written, and a digit in lower case. -/
def writtenChar (c : Char) : Char := if c = '-' then ':' else c.toLower

/-! ## Two octets -/

theorem isDigit_of_isHexByte {b : UInt8} (h : isHexByte b = true) :
    IsDigit 16 (Char.ofNat b.toNat) (hexByteValue b) ∧
      utf8Char (Char.ofNat b.toNat) = [b] := by
  -- all octets are looked up, those that are no digit with nothing to show
  have checked : ∀ n < 256, isHexByte (UInt8.ofNat n) = true →
      IsDigit 16 (Char.ofNat n) (hexByteValue (UInt8.ofNat n)) ∧
        utf8Char (Char.ofNat n) = [UInt8.ofNat n] := by decide +kernel
  have := checked b.toNat b.toNat_lt
  rw [UInt8.ofNat_toNat] at this
  exact this h

/-- A character is a single octet, which is a digit of a value and no separator. -/
def SpellsDigit (c : Char) (value : Nat) (b : UInt8) : Prop :=
  utf8Char c = [b] ∧ isHexByte b = true ∧ hexByteValue b = value ∧ c ≠ '-' ∧ b ≠ 0x3A ∧ b ≠ 0x2D

instance (c : Char) (value : Nat) (b : UInt8) : Decidable (SpellsDigit c value b) :=
  inferInstanceAs (Decidable (_ ∧ _))

theorem octet_of_isDigit {c : Char} {value : Nat} (h : IsDigit 16 c value) :
    ∃ b, SpellsDigit c value b := by
  have both : ∀ n < 16, SpellsDigit n.digitChar n (.ofNat n.digitChar.toNat) ∧
      SpellsDigit n.digitChar.toUpper n (.ofNat n.digitChar.toUpper.toNat) := by decide
  obtain ⟨lower, upper⟩ := both value h.1
  rcases h.2 with rfl | rfl
  · exact ⟨_, lower⟩
  · exact ⟨_, upper⟩

theorem readOctet?_eq_some_iff {part : Bytes} {octet : UInt8} :
    readOctet? part = some octet ↔ ∃ pair, Pair pair octet ∧ pair.flatMap utf8Char = part := by
  constructor
  · intro read
    unfold readOctet? at read
    split at read
    · rename_i a b
      split at read
      · rename_i both
        cases read
        obtain ⟨hexA, hexB⟩ := Bool.and_eq_true_iff.mp both
        obtain ⟨digitA, spelledA⟩ := isDigit_of_isHexByte hexA
        obtain ⟨digitB, spelledB⟩ := isDigit_of_isHexByte hexB
        refine ⟨_, .digits digitA digitB, ?_⟩
        simp [spelledA, spelledB]
      · cases read
    · cases read
  · rintro ⟨pair, ⟨digitA, digitB⟩, rfl⟩
    obtain ⟨a, spelledA, hexA, rfl, -⟩ := octet_of_isDigit digitA
    obtain ⟨b, spelledB, hexB, rfl, -⟩ := octet_of_isDigit digitB
    simp [spelledA, spelledB, readOctet?, hexA, hexB]

theorem Pair.length {pair : List Char} {octet : UInt8} (h : Pair pair octet) :
    (pair.flatMap utf8Char).length = 2 := by
  obtain ⟨digitA, digitB⟩ := h
  obtain ⟨a, spelledA, -⟩ := octet_of_isDigit digitA
  obtain ⟨b, spelledB, -⟩ := octet_of_isDigit digitB
  simp [spelledA, spelledB]

theorem Pair.plain {pair : List Char} {octet : UInt8} (h : Pair pair octet) {c : Char}
    {stop : UInt8} (separator : Separator c stop) : stop ∉ pair.flatMap utf8Char := by
  obtain ⟨digitA, digitB⟩ := h
  obtain ⟨a, spelledA, -, -, -, colonA, hyphenA⟩ := octet_of_isDigit digitA
  obtain ⟨b, spelledB, -, -, -, colonB, hyphenB⟩ := octet_of_isDigit digitB
  cases separator with
  | colon => simp [spelledA, spelledB, colonA.symm, colonB.symm]
  | hyphen => simp [spelledA, spelledB, hyphenA.symm, hyphenB.symm]

theorem Pair.writeOctet {pair : List Char} {octet : UInt8} (h : Pair pair octet) :
    writeOctet octet = pair.map writtenChar := by
  obtain @⟨a, b, high, low, digitA, digitB⟩ := h
  obtain ⟨-, -, -, -, plainA, -⟩ := octet_of_isDigit digitA
  obtain ⟨-, -, -, -, plainB, -⟩ := octet_of_isDigit digitB
  have number : (UInt8.ofNat (16 * high + low)).toNat = 16 * high + low :=
    UInt8.toNat_ofNat_of_lt' (by have := digitA.1; have := digitB.1; show _ < 256; omega)
  have first : (16 * high + low) / 16 = high := by have := digitB.1; omega
  have second : (16 * high + low) % 16 = low := by have := digitB.1; omega
  rw [HardwareAddress.writeOctet, number, first, second]
  simp [writtenChar, plainA, plainB, digitA.toLower (by decide), digitB.toLower (by decide)]

theorem pair_writeOctet (octet : UInt8) : Pair (writeOctet octet) octet := by
  have small := octet.toNat_lt
  have high : IsDigit 16 (octet.toNat / 16).digitChar (octet.toNat / 16) := ⟨by omega, .inl rfl⟩
  have low : IsDigit 16 (octet.toNat % 16).digitChar (octet.toNat % 16) := ⟨by omega, .inl rfl⟩
  have whole := Pair.digits high low
  rwa [Nat.div_add_mod, UInt8.ofNat_toNat] at whole

/-! ## Six parts -/

/-- All parts are read, and there are as many as octets are wanted. -/
theorem readOctets_ok_iff {count : Nat} {parts : List Bytes} {octets : Vector UInt8 count} :
    readOctets count parts = .ok octets ↔
      List.Forall₂ (fun part octet => readOctet? part = some octet) parts octets.toList := by
  -- a vector has no constructor to split on: its list is split, and its tail made a vector again
  induction count generalizing parts with
  | zero =>
    have empty : octets.toList = [] := List.eq_nil_of_length_eq_zero octets.length_toList
    rw [empty, List.forall₂_nil_right_iff]
    cases parts with
    | nil => simp [readOctets, Vector.eq_empty]
    | cons part rest => simp [readOctets]
  | succ count ih =>
    obtain ⟨first, others, split⟩ := List.exists_cons_of_length_eq_add_one octets.length_toList
    have length : others.length = count := by
      have := octets.length_toList
      rw [split] at this
      exact Nat.succ.inj this
    let after : Vector UInt8 count := ⟨others.toArray, length⟩
    have whole (octet : UInt8) (read : Vector UInt8 count) :
        (#v[octet] ++ read).cast (Nat.add_comm 1 count) = octets ↔
          octet = first ∧ read.toList = others := by
      rw [← Vector.toList_inj, split, Vector.toList_cast, Vector.toList_append]
      exact List.cons_eq_cons
    have tail : others = after.toList := rfl
    rw [split]
    cases parts with
    | nil => simp [readOctets]
    | cons part rest =>
      rw [List.forall₂_cons, tail, ← ih, readOctets]
      cases readOctet? part with
      | none => simp
      | some octet =>
        cases readOctets count rest with
        | error fault => simp
        | ok read =>
          simp only [Except.ok.injEq, Option.some.injEq, whole, ← Vector.toList_inj]
          rfl

/-- Parts are at fault if one of them is no octet. Otherwise their number is, and those that have
been read are pairs. -/
theorem readOctets_error {count : Nat} {parts : List Bytes} {fault : AddressFault}
    (h : readOctets count parts = .error fault) :
    fault = .octet ∨ parts.length ≠ count ∧ ∀ part ∈ parts.take count, part.length = 2 := by
  fun_induction readOctets count parts with
  | case1 => cases h
  | case2 => exact .inr ⟨by simp, by simp⟩
  | case3 => exact .inr ⟨by simp, by simp⟩
  | case4 =>
    cases h
    exact .inl rfl
  | case5 count part rest octet read other more ih =>
    cases h
    refine (ih more).imp_right fun ⟨miscounted, pairs⟩ => ⟨by simpa using miscounted, ?_⟩
    obtain ⟨pair, spelled, rfl⟩ := readOctet?_eq_some_iff.mp read
    rw [List.take_succ_cons]
    exact List.forall_mem_cons.mpr ⟨spelled.length, pairs⟩
  | case6 => cases h

/-- The length of parts with separators between them tells whether there are as many as wanted, if
those of them that are wanted are pairs. -/
theorem length_joined_iff (separator : UInt8) {count : Nat} {parts : List Bytes}
    (some : 0 < count) (pairs : ∀ part ∈ parts.take count, part.length = 2) :
    ([separator].intercalate parts).length + 1 = 3 * count ↔ parts.length = count := by
  induction parts generalizing count with
  | nil =>
    rw [List.intercalate_nil, List.length_nil, List.length_nil]
    omega
  | cons part rest ih =>
    obtain ⟨count, rfl⟩ := Nat.exists_eq_add_one_of_ne_zero (Nat.ne_of_gt some)
    rw [List.take_succ_cons] at pairs
    obtain ⟨pair, pairs⟩ := List.forall_mem_cons.mp pairs
    cases rest with
    | nil =>
      rw [List.intercalate_singleton, pair, List.length_singleton]
      omega
    | cons next rest =>
      rw [List.intercalate_cons_cons, List.length_append, List.length_append, pair,
        List.length_singleton, List.length_cons]
      rcases Nat.eq_zero_or_pos count with rfl | more
      · rw [List.length_cons]
        omega
      · have := ih more pairs
        omega

/-! ## Texts and their octets -/

theorem Separator.utf8Char_eq {separator : Char} {octet : UInt8} (h : Separator separator octet) :
    utf8Char separator = [octet] := by
  cases h with
  | colon => rfl
  | hyphen => rfl

theorem utf8_joined {text : String} {separator : Char} {octet : UInt8} {pairs : List (List Char)}
    (h : Separator separator octet) : text.toList = [separator].intercalate pairs ↔
      utf8 text = [octet].intercalate (pairs.map (List.flatMap utf8Char)) := by
  rw [← h.utf8Char_eq, ← flatMap_intercalate, ← utf8_ofList]
  constructor
  · intro joined
    rw [← joined, String.ofList_toList]
  · intro joined
    rw [utf8_inj joined, String.toList_ofList]

theorem forall₂_readOctet?_iff {parts : List Bytes} {octets : List UInt8} :
    List.Forall₂ (fun part octet => readOctet? part = some octet) parts octets ↔
      ∃ pairs, List.Forall₂ Pair pairs octets ∧ pairs.map (List.flatMap utf8Char) = parts := by
  constructor
  · intro read
    induction read with
    | nil => exact ⟨[], .nil, rfl⟩
    | cons first _ ih =>
      obtain ⟨pair, spelled, rfl⟩ := readOctet?_eq_some_iff.mp first
      obtain ⟨pairs, each, rfl⟩ := ih
      exact ⟨pair :: pairs, .cons spelled each, rfl⟩
  · rintro ⟨pairs, each, rfl⟩
    rw [List.forall₂_map_left_iff]
    exact each.imp fun pair octet spelled => readOctet?_eq_some_iff.mpr ⟨pair, spelled, rfl⟩

/-- A text is read at a separator if it is joined from pairs by that separator. -/
theorem readOctets_splitOn_iff {text : String} {separator : Char} {octet : UInt8}
    (h : Separator separator octet) {octets : Vector UInt8 6} :
    readOctets 6 ((utf8 text).splitOn octet) = .ok octets ↔
      ∃ pairs, List.Forall₂ Pair pairs octets.toList ∧
        text.toList = [separator].intercalate pairs := by
  rw [readOctets_ok_iff, forall₂_readOctet?_iff]
  simp only [utf8_joined h]
  refine exists_congr fun pairs => and_congr_right fun each => ?_
  constructor
  · intro apart
    rw [apart, List.intercalate_splitOn]
  · intro joined
    have plain : ∀ part ∈ pairs.map (List.flatMap utf8Char), octet ∉ part := by
      intro part mem
      obtain ⟨pair, inside, rfl⟩ := List.mem_map.mp mem
      obtain ⟨value, spelled⟩ := exists_forall₂_iff.mp ⟨_, each⟩ pair inside
      exact spelled.plain h
    -- without it the empty text, which is split into one part, would be joined from none
    have nonempty : pairs.map (List.flatMap utf8Char) ≠ [] := by
      intro none
      have := each.length_eq
      rw [List.map_eq_nil_iff.mp none, octets.length_toList] at this
      cases this
    rw [joined, List.splitOn_intercalate octet plain nonempty]

/-! ## All texts -/

theorem spelling_iff {text : String} {separator : Char} {pairs : List (List Char)} :
    Spelling text separator pairs ↔ (∃ octet, Separator separator octet) ∧
      ∃ octets : Vector UInt8 6, List.Forall₂ Pair pairs octets.toList ∧
        text.toList = [separator].intercalate pairs := by
  constructor
  · intro h
    obtain ⟨octets, each⟩ := exists_forall₂_iff.mpr h.digits
    have count : octets.length = 6 := each.length_eq.symm.trans h.count
    refine ⟨?_, ⟨octets.toArray, count⟩, each, h.joined⟩
    rcases h.separator with rfl | rfl
    · exact ⟨_, .colon⟩
    · exact ⟨_, .hyphen⟩
  · rintro ⟨⟨octet, separator⟩, octets, each, joined⟩
    refine ⟨joined, each.length_eq.trans octets.length_toList,
      exists_forall₂_iff.mp ⟨_, each⟩, ?_⟩
    cases separator with
    | colon => exact .inl rfl
    | hyphen => exact .inr rfl

/-- What is spelled as an address is 17 octets long, and its third octet is the separator. -/
theorem Spelling.shape {text : String} {separator : Char} {pairs : List (List Char)}
    (h : Spelling text separator pairs) : (utf8 text).length = 17 ∧
      ∃ third, (utf8 text)[2]? = some third ∧ Separator separator third := by
  obtain ⟨⟨third, stop⟩, -⟩ := spelling_iff.mp h
  have even : ∀ part ∈ pairs.map (List.flatMap utf8Char), part.length = 2 := by
    intro part mem
    obtain ⟨pair, inside, rfl⟩ := List.mem_map.mp mem
    obtain ⟨octet, spelled⟩ := h.digits pair inside
    exact spelled.length
  have joined := (utf8_joined stop).mp h.joined
  constructor
  · have count : (pairs.map (List.flatMap utf8Char)).length = 6 := by rw [List.length_map, h.count]
    have := (length_joined_iff third (by decide)
      fun part mem => even part (List.mem_of_mem_take mem)).mpr count
    rw [← joined] at this
    exact Nat.succ.inj this
  · obtain ⟨first, second, others, rfl⟩ :
        ∃ first second others, pairs = first :: second :: others := by
      match pairs, h.count with
      | first :: second :: others, _ => exact ⟨first, second, others, rfl⟩
    have first := even (first.flatMap utf8Char) List.mem_cons_self
    refine ⟨third, ?_, stop⟩
    rw [joined, List.map_cons, List.map_cons, List.intercalate_cons_cons, List.append_assoc,
      List.getElem?_append_right (by omega), first]
    rfl

/-- The third of 17 octets decides where they are split. -/
theorem readBytes_at {text : String} {separator : Char} {third : UInt8}
    (length : (utf8 text).length = 17) (at_two : (utf8 text)[2]? = some third)
    (h : Separator separator third) :
    readBytes (utf8 text) = (readOctets 6 ((utf8 text).splitOn third)).map .mk := by
  rw [readBytes, if_neg (not_not_intro length), at_two]
  cases h with
  | colon => rfl
  | hyphen => rfl

/-- A text of 17 octets is only ever at fault for its digits: it has six parts if none of those that
are read is at fault. -/
theorem fault_of_readOctets {text : String} {octet : UInt8} {fault : AddressFault}
    (length : (utf8 text).length = 17)
    (rejected : readOctets 6 ((utf8 text).splitOn octet) = .error fault) : fault = .octet := by
  refine (readOctets_error rejected).resolve_right fun ⟨miscounted, pairs⟩ => miscounted ?_
  refine (length_joined_iff octet (by decide) pairs).mp ?_
  rw [List.intercalate_splitOn, length]

/-- A text is spelled as an address, and read as what it spells, or it is at fault. -/
theorem readBytes_cases (text : String) :
    (∃ address separator pairs, readBytes (utf8 text) = .ok address ∧
      Spelling text separator pairs ∧ List.Forall₂ Pair pairs address.octets.toList) ∨
    ∃ fault, readBytes (utf8 text) = .error fault ∧ Faulty text fault.message := by
  by_cases length : (utf8 text).length = 17
  case neg => exact .inr ⟨.length, by rw [readBytes, if_pos length], .length length⟩
  obtain ⟨third, at_two⟩ : ∃ third, (utf8 text)[2]? = some third :=
    ⟨_, List.getElem?_eq_getElem (by omega)⟩
  by_cases stop : third = 0x3A ∨ third = 0x2D
  · obtain ⟨separator, h⟩ : ∃ separator, Separator separator third := by
      rcases stop with rfl | rfl
      · exact ⟨_, .colon⟩
      · exact ⟨_, .hyphen⟩
    rw [readBytes_at length at_two h]
    cases split : readOctets 6 ((utf8 text).splitOn third) with
    | ok octets =>
      obtain ⟨pairs, each, joined⟩ := (readOctets_splitOn_iff h).mp split
      exact .inl ⟨⟨octets⟩, separator, pairs, rfl,
        spelling_iff.mpr ⟨⟨third, h⟩, octets, each, joined⟩, each⟩
    | error fault =>
      refine .inr ⟨fault, rfl, fault_of_readOctets length split ▸ ?_⟩
      -- another spelling would have its separator at the same place, and would have been read
      refine .octet length at_two stop fun other pairs spelled => ?_
      obtain ⟨-, third', same, h'⟩ := spelled.shape
      rw [at_two] at same
      cases same
      obtain ⟨-, octets, each, joined⟩ := spelling_iff.mp spelled
      have read := (readOctets_splitOn_iff h').mpr ⟨pairs, each, joined⟩
      rw [split] at read
      cases read
  · obtain ⟨colon, hyphen⟩ := not_or.mp stop
    refine .inr ⟨.separator, ?_, .separator length at_two colon hyphen⟩
    rw [readBytes, if_neg (not_not_intro length), at_two]
    split
    · rename_i same
      exact absurd (Option.some.inj same) colon
    · rename_i same
      exact absurd (Option.some.inj same) hyphen
    · rfl

theorem Faulty.not_spelling {text reason : String} (h : Faulty text reason) {separator : Char}
    {pairs : List (List Char)} : ¬ Spelling text separator pairs := by
  intro spelled
  obtain ⟨long, third, at_two, stop⟩ := spelled.shape
  cases h with
  | length short => exact short long
  | separator _ at_two' colon hyphen =>
    rw [at_two] at at_two'
    cases at_two'
    cases stop with
    | colon => exact colon rfl
    | hyphen => exact hyphen rfl
  | octet _ _ _ none => exact none _ _ spelled

theorem Faulty.unique {text reason other : String} (h : Faulty text reason)
    (h' : Faulty text other) : reason = other := by
  cases h with
  | length short =>
    cases h' with
    | length _ => rfl
    | separator long | octet long => exact absurd long short
  | separator long at_two colon hyphen =>
    cases h' with
    | length short => exact absurd long short
    | separator => rfl
    | octet _ at_two' stop =>
      rw [at_two] at at_two'
      cases at_two'
      exact absurd stop (not_or.mpr ⟨colon, hyphen⟩)
  | octet long at_two stop =>
    cases h' with
    | length short => exact absurd long short
    | separator _ at_two' colon hyphen =>
      rw [at_two] at at_two'
      cases at_two'
      exact absurd stop (not_or.mpr ⟨colon, hyphen⟩)
    | octet => rfl

theorem message_injective : Function.Injective AddressFault.message := by
  intro a b
  cases a <;> cases b <;> decide

/-- The number of parts is never at fault. -/
theorem Faulty.fault {text : String} {fault : AddressFault} (h : Faulty text fault.message) :
    fault = .length ∨ fault = .separator ∨ fault = .octet := by
  generalize same : fault.message = reason at h
  cases h with
  | length => exact .inl (message_injective same)
  | separator => exact .inr (.inl (message_injective same))
  | octet => exact .inr (.inr (message_injective same))

theorem read_cases (text : String) :
    (∃ address separator pairs, read text = .ok address ∧
      Spelling text separator pairs ∧ List.Forall₂ Pair pairs address.octets.toList) ∨
    ∃ fault, read text = .error (.badAddress text fault) ∧ Faulty text fault.message := by
  refine (readBytes_cases text).imp ?_ ?_
  · rintro ⟨address, separator, pairs, accepted, spelled⟩
    refine ⟨address, separator, pairs, ?_, spelled⟩
    rw [read, accepted]
  · rintro ⟨fault, rejected, h⟩
    refine ⟨fault, ?_, h⟩
    rw [read, rejected]

theorem exists_read_iff (text : String) :
    (∃ address, read text = .ok address) ↔ ∃ separator pairs, Spelling text separator pairs := by
  rcases read_cases text with ⟨address, separator, pairs, accepted, spelled, -⟩ | ⟨_, rejected, h⟩
  · exact ⟨fun _ => ⟨separator, pairs, spelled⟩, fun _ => ⟨address, accepted⟩⟩
  · constructor
    · rintro ⟨address, accepted⟩
      rw [rejected] at accepted
      cases accepted
    · rintro ⟨separator, pairs, spelled⟩
      exact absurd spelled h.not_spelling

/-- All other texts are rejected for the first reason that holds. -/
theorem read_error_iff (text : String) (error : FormatError) : read text = .error error ↔
    ∃ fault, error = .badAddress text fault ∧ Faulty text fault.message := by
  rcases read_cases text with ⟨_, _, _, accepted, spelled, -⟩ | ⟨fault, rejected, h⟩
  · rw [accepted]
    refine ⟨nofun, ?_⟩
    rintro ⟨fault, -, h⟩
    exact absurd spelled h.not_spelling
  · rw [rejected]
    constructor
    · rintro ⟨⟩
      exact ⟨fault, rfl, h⟩
    · rintro ⟨other, rfl, h'⟩
      rw [message_injective (h.unique h')]

theorem write_of_read {text : String} {address : HardwareAddress}
    (accepted : read text = .ok address) :
    address.write.toList = text.toList.map writtenChar := by
  rcases read_cases text with ⟨_, separator, pairs, read, spelled, each⟩ | ⟨_, rejected, -⟩
  · rw [accepted] at read
    cases read
    have octets : address.octets.toList.map writeOctet = pairs.map (List.map writtenChar) := by
      rw [← List.forall₂_eq_eq_eq, List.forall₂_map_left_iff, List.forall₂_map_right_iff]
      exact (each.imp fun _ _ h => h.writeOctet).flip
    have colon : writtenChar separator = ':' := by
      rcases spelled.separator with rfl | rfl <;> rfl
    rw [write, String.toList_ofList, octets, spelled.joined, map_intercalate, colon]
  · rw [accepted] at rejected
    cases rejected

theorem codec_lawful : codec.Lawful := by
  intro address
  have each : List.Forall₂ Pair (address.octets.toList.map writeOctet) address.octets.toList := by
    rw [List.forall₂_map_left_iff, List.forall₂_same]
    exact fun octet _ => pair_writeOctet octet
  have spelled : Spelling address.write ':' (address.octets.toList.map writeOctet) :=
    spelling_iff.mpr ⟨⟨_, .colon⟩, address.octets, each, String.toList_ofList⟩
  obtain ⟨length, third, at_two, stop⟩ := spelled.shape
  have read := (readOctets_splitOn_iff stop).mpr ⟨_, each, spelled.joined⟩
  change HardwareAddress.read address.write = .ok address
  rw [HardwareAddress.read, readBytes_at length at_two stop, read]
  rfl

/-- Addresses as texts: what is written is read back, which texts are read and how they are written
again, and what is wrong with all others. The number of parts never is. -/
theorem read_spelling :
    (∀ address : HardwareAddress, read address.write = .ok address) ∧
    ∀ text : String,
      ((∃ address, read text = .ok address) ↔
        ∃ separator pairs, Spelling text separator pairs) ∧
      (∀ address, read text = .ok address → address.write.toList = text.toList.map writtenChar) ∧
      (∀ error, read text = .error error ↔
        ∃ fault, error = .badAddress text fault ∧ Faulty text fault.message) ∧
      ∀ other fault, read text = .error (.badAddress other fault) →
        fault ≠ .tooFew ∧ fault ≠ .tooMany := by
  refine ⟨codec_lawful, fun text => ⟨exists_read_iff text, fun _ => write_of_read,
    read_error_iff text, fun other fault rejected => ?_⟩⟩
  obtain ⟨_, ⟨⟩, h⟩ := (read_error_iff text _).mp rejected
  rcases h.fault with rfl | rfl | rfl <;> decide

/-- An address in upper case with hyphens, and a text of 17 octets with a character that has two. -/
theorem read_spelling_hyphens :
    (∃ address, read "F0-9F-C2-00-0A-01" = .ok address ∧ address.write = "f0:9f:c2:00:0a:01") ∧
      Faulty "00:11:22:33:44:é" "octets must be two hex digits" := by
  constructor
  · have accepted : read "F0-9F-C2-00-0A-01" = .ok ⟨#v[0xF0, 0x9F, 0xC2, 0, 0x0A, 0x01]⟩ := by
      decide +kernel
    refine ⟨_, accepted, String.toList_inj.mp ?_⟩
    exact ((read_spelling.2 _).2.1 _ accepted).trans (by decide)
  · have rejected : read "00:11:22:33:44:é" = .error (.badAddress "00:11:22:33:44:é" .octet) := by
      decide +kernel
    obtain ⟨_, ⟨⟩, h⟩ := ((read_spelling.2 _).2.2.1 _).mp rejected
    exact h

end HardwareAddress
end WlanAdmin
