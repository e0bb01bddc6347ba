import WlanAdmin.Proofs.Text.Utf8
import WlanAdmin.Xml.Reference

/-!
# WlanAdmin.Proofs.Xml.Escaping

Values are written so that no markup is left in them, and reading resolves what writing put there.

* `Escaping.byte_cases`   : an octet is written as a named reference to it, or as itself.
* `unescape_value`        : a written value is resolved to the value.
* `Escaping.value_clean`  : a written value holds no angle bracket and no double quote.
* `Escaping.spells_value` : a written text is a text.
-/

namespace WlanAdmin.Xml

/-- Lower-case letters, of which the names of named references consist. -/
def isLetter (b : UInt8) : Bool := 0x61 ≤ b && b ≤ 0x7A

theorem isLetter_range {b : UInt8} (h : isLetter b = true) : 0x61 ≤ b ∧ b ≤ 0x7A := by
  simpa [isLetter] using h

/-- An octet that starts or ends no markup, no reference and no value. -/
def IsClean (b : UInt8) : Prop := b ≠ 0x3C ∧ b ≠ 0x3E ∧ b ≠ 0x26 ∧ b ≠ 0x22

instance (b : UInt8) : Decidable (IsClean b) := inferInstanceAs (Decidable (_ ∧ _))

/-- The octet is written as a reference of this name. -/
structure Named (escaping : Escaping) (b : UInt8) (name : Bytes) : Prop where
  byte : escaping.byte b = 0x26 :: (name ++ [0x3B])
  resolved : resolve name = some [b]
  letters : name.all isLetter = true

theorem Escaping.byte_cases (escaping : Escaping) (b : UInt8) :
    (∃ name, Named escaping b name) ∨ escaping.byte b = [b] ∧ IsClean b := by
  by_cases hlt : b = 0x3C
  · exact .inl ⟨utf8 "lt", by rw [Escaping.byte, if_pos hlt]; rfl, by rw [hlt]; decide, by decide⟩
  by_cases hgt : b = 0x3E
  · exact .inl ⟨utf8 "gt", by rw [hgt]; rfl, by rw [hgt]; decide, by decide⟩
  by_cases hamp : b = 0x26
  · exact .inl ⟨utf8 "amp", by rw [hamp]; rfl, by rw [hamp]; decide, by decide⟩
  by_cases hquot : b = 0x22
  · exact .inl ⟨utf8 "quot", by rw [hquot]; rfl, by rw [hquot]; decide, by decide⟩
  by_cases hapos : b = 0x27 ∧ escaping = .full
  · obtain ⟨rfl, rfl⟩ := hapos
    exact .inl ⟨utf8 "apos", rfl, by decide, by decide⟩
  · right
    rw [Escaping.byte, if_neg hlt, if_neg hgt, if_neg hamp, if_neg hquot, if_neg hapos]
    exact ⟨rfl, hlt, hgt, hamp, hquot⟩

/-! ## Resolving what was written -/

theorem unescapeFrom_name {name : Bytes} (letters : ∀ b ∈ name, isLetter b = true)
    (seen rest : Bytes) :
    unescapeFrom (some seen) (name ++ rest) = unescapeFrom (some (name.reverse ++ seen)) rest := by
  induction name generalizing seen with
  | nil => rfl
  | cons b name ih =>
    have hletter := letters b List.mem_cons_self
    have hsemicolon : b ≠ 0x3B := by rintro rfl; cases hletter
    have hampersand : b ≠ 0x26 := by rintro rfl; cases hletter
    rw [List.cons_append, unescapeFrom, if_neg hsemicolon, if_neg hampersand,
      ih fun c hc => letters c (List.mem_cons_of_mem _ hc)]
    simp

/-- A written octet is resolved to that octet. -/
theorem unescapeFrom_byte (escaping : Escaping) (b : UInt8) (rest : Bytes) :
    unescapeFrom none (escaping.byte b ++ rest) = (unescapeFrom none rest).map (b :: ·) := by
  rcases escaping.byte_cases b with ⟨name, hname⟩ | ⟨hbyte, -, -, hampersand, -⟩
  · rw [hname.byte, List.cons_append, List.append_assoc, unescapeFrom, if_pos rfl,
      unescapeFrom_name (List.all_eq_true.mp hname.letters), List.append_nil, List.cons_append,
      unescapeFrom, if_pos rfl, List.reverse_reverse, hname.resolved]
    rfl
  · rw [hbyte, List.cons_append, unescapeFrom, if_neg hampersand]
    rfl

theorem unescape_value (escaping : Escaping) (value : Bytes) :
    unescape (escaping.value value) = some value := by
  unfold unescape
  induction value with
  | nil => rfl
  | cons b value ih =>
    rw [Escaping.value, List.flatMap_cons, unescapeFrom_byte]
    rw [Escaping.value] at ih
    rw [ih]
    rfl

/-! ## What is written -/

namespace Escaping

/-- The octets that are written for one. -/
theorem mem_byte {escaping : Escaping} {b c : UInt8} (h : c ∈ escaping.byte b) :
    c = 0x26 ∨ c = 0x3B ∨ isLetter c = true ∨ c = b ∧ IsClean b := by
  rcases escaping.byte_cases b with ⟨name, hname⟩ | ⟨hbyte, hclean⟩
  · rw [hname.byte] at h
    simp only [List.mem_cons, List.mem_append, List.not_mem_nil, or_false] at h
    rcases h with h | h | h
    · exact .inl h
    · exact .inr (.inr (.inl (List.all_eq_true.mp hname.letters c h)))
    · exact .inr (.inl h)
  · rw [hbyte] at h
    exact .inr (.inr (.inr ⟨List.mem_singleton.mp h, hclean⟩))

theorem byte_clean (escaping : Escaping) (b : UInt8) :
    ∀ c ∈ escaping.byte b, c ≠ 0x3C ∧ c ≠ 0x3E ∧ c ≠ 0x22 := by
  intro c hc
  rcases mem_byte hc with rfl | rfl | hletter | ⟨rfl, hlt, hgt, -, hquote⟩
  · decide
  · decide
  · refine ⟨?_, ?_, ?_⟩ <;> rintro rfl <;> cases hletter
  · exact ⟨hlt, hgt, hquote⟩

/-- A written value can end neither itself nor the tag it stands in. -/
theorem value_clean (escaping : Escaping) (value : Bytes) :
    ∀ c ∈ escaping.value value, c ≠ 0x3C ∧ c ≠ 0x3E ∧ c ≠ 0x22 := by
  intro c hc
  obtain ⟨b, -, hb⟩ := List.mem_flatMap.mp hc
  exact escaping.byte_clean b c hb

/-- A value without markup is written as it is. -/
theorem value_eq {value : Bytes} (clean : ∀ b ∈ value, IsClean b) :
    Escaping.doubleQuote.value value = value := by
  induction value with
  | nil => rfl
  | cons b value ih =>
    obtain ⟨hlt, hgt, hampersand, hquote⟩ := clean b List.mem_cons_self
    have hbyte : Escaping.doubleQuote.byte b = [b] := by
      simp [Escaping.byte, hlt, hgt, hampersand, hquote]
    have hvalue := ih fun c hc => clean c (List.mem_cons_of_mem _ hc)
    rw [Escaping.value] at hvalue
    rw [Escaping.value, List.flatMap_cons, hbyte, hvalue]
    rfl

theorem spells_byte (escaping : Escaping) {b : UInt8} (h : b < 128) :
    Spells (escaping.byte b) := by
  refine spells_ascii fun c hc => ?_
  rcases mem_byte hc with rfl | rfl | hletter | ⟨rfl, -⟩
  · decide
  · decide
  · exact UInt8.lt_of_le_of_lt (isLetter_range hletter).2 (by decide)
  · exact h

theorem byte_high (escaping : Escaping) {b : UInt8} (h : 128 ≤ b) : escaping.byte b = [b] := by
  have hne : ∀ c : UInt8, c < 128 → b ≠ c := fun c hc he => by
    subst he
    exact UInt8.lt_irrefl _ (UInt8.lt_of_lt_of_le hc h)
  simp [Escaping.byte, hne]

/-- A text is written as a text: no character is torn. -/
theorem spells_value (escaping : Escaping) (text : String) :
    Spells (escaping.value (utf8 text)) := by
  rw [utf8_eq, Escaping.value, List.flatMap_assoc]
  refine spells_flatMap fun c _ => ?_
  by_cases hc : c.toNat < 128
  · rw [utf8Char_ascii hc, List.flatMap_cons, List.flatMap_nil, List.append_nil]
    refine escaping.spells_byte ?_
    rw [UInt8.lt_iff_toNat_lt, UInt8.toNat_ofNat_of_lt' (by show c.toNat < 256; omega)]
    exact hc
  · have hself : (utf8Char c).flatMap escaping.byte = utf8Char c := by
      have := utf8Char_high (Nat.le_of_not_lt hc)
      generalize utf8Char c = octets at this
      induction octets with
      | nil => rfl
      | cons b octets ih =>
        rw [List.flatMap_cons, escaping.byte_high (this b List.mem_cons_self),
          ih fun b hb => this b (List.mem_cons_of_mem _ hb)]
        rfl
    rw [hself]
    exact ⟨String.singleton c, by simp [utf8_eq]⟩

end Escaping
end WlanAdmin.Xml
