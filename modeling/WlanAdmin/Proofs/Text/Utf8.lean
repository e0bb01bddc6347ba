import WlanAdmin.Text.Bytes

/-!
# WlanAdmin.Proofs.Text.Utf8

The octets of a text, character by character.

* `utf8_eq`    : a text's octets are those of its characters, one after the other.
* `utf8Char_ascii`, `utf8Char_high` : an ASCII character is its own octet, and no octet of any other
  character is an ASCII one.
* `Spells`     : octets that are those of a text.
-/

namespace WlanAdmin

theorem utf8_eq (text : String) : utf8 text = text.toList.flatMap utf8Char := by
  have h : text.toByteArray = text.toList.utf8Encode := by
    rw [← String.toByteArray_ofList, String.ofList_toList]
  simp [utf8, h, List.utf8Encode]
  rfl

theorem utf8_ofList (chars : List Char) : utf8 (String.ofList chars) = chars.flatMap utf8Char := by
  rw [utf8_eq, String.toList_ofList]

theorem utf8_append (s t : String) : utf8 (s ++ t) = utf8 s ++ utf8 t := by
  simp [utf8_eq]

theorem utf8_inj {s t : String} (h : utf8 s = utf8 t) : s = t := by
  have := congrArg text? h
  rw [text?_utf8, text?_utf8] at this
  exact Option.some.inj this

theorem utf8Char_ascii {c : Char} (h : c.toNat < 128) : utf8Char c = [UInt8.ofNat c.toNat] :=
  if_pos (Nat.le_of_lt_succ h)

/-- An octet with its highest bit set. -/
theorem high_ofNat {n : Nat} (low : 128 ≤ n) (high : n < 256) : 128 ≤ UInt8.ofNat n := by
  rw [UInt8.le_iff_toNat_le, UInt8.toNat_ofNat_of_lt' high]
  exact low

theorem utf8Char_high {c : Char} (h : 128 ≤ c.toNat) : ∀ b ∈ utf8Char c, 128 ≤ b := by
  intro b hb
  have hc : ¬ c.val.toNat ≤ 0x7F := Nat.not_le.mpr h
  simp only [utf8Char, String.utf8EncodeChar, if_neg hc] at hb
  split at hb
  · simp only [List.mem_cons, List.not_mem_nil, or_false] at hb
    rcases hb with rfl | rfl <;> exact high_ofNat (by omega) (by omega)
  · split at hb
    · simp only [List.mem_cons, List.not_mem_nil, or_false] at hb
      rcases hb with rfl | rfl | rfl <;> exact high_ofNat (by omega) (by omega)
    · simp only [List.mem_cons, List.not_mem_nil, or_false] at hb
      rcases hb with rfl | rfl | rfl | rfl <;> exact high_ofNat (by omega) (by omega)

/-- Octets that are those of a text. -/
def Spells (octets : Bytes) : Prop := ∃ text, utf8 text = octets

theorem spells_utf8 (text : String) : Spells (utf8 text) := ⟨text, rfl⟩

theorem Spells.append {a b : Bytes} (ha : Spells a) (hb : Spells b) : Spells (a ++ b) := by
  obtain ⟨s, rfl⟩ := ha
  obtain ⟨t, rfl⟩ := hb
  exact ⟨s ++ t, utf8_append s t⟩

/-- ASCII octets are those of the characters with their numbers. -/
theorem spells_ascii {octets : Bytes} (ascii : ∀ b ∈ octets, b < 128) : Spells octets := by
  refine ⟨String.ofList (octets.map fun b => Char.ofNat b.toNat), ?_⟩
  rw [utf8_ofList]
  induction octets with
  | nil => rfl
  | cons b octets ih =>
    have hb : b.toNat < 128 := ascii b List.mem_cons_self
    have hchar : (Char.ofNat b.toNat).toNat = b.toNat := by
      rw [Char.ofNat, dif_pos (.inl (by omega))]
      rfl
    rw [List.map_cons, List.flatMap_cons, utf8Char_ascii (by omega), hchar, UInt8.ofNat_toNat,
      ih fun c hc => ascii c (List.mem_cons_of_mem _ hc)]
    rfl

theorem spells_flatMap {α : Type} {f : α → Bytes} {l : List α} (h : ∀ a ∈ l, Spells (f a)) :
    Spells (l.flatMap f) := by
  induction l with
  | nil => exact spells_utf8 ""
  | cons a l ih =>
    have hl := ih fun b hb => h b (List.mem_cons_of_mem _ hb)
    exact (h a List.mem_cons_self).append hl

theorem Spells.isSome {octets : Bytes} (h : Spells octets) : (text? octets).isSome := by
  obtain ⟨text, rfl⟩ := h
  rw [text?_utf8]
  rfl

theorem Spells.isNone {octets : Bytes} (h : Spells octets) : (text? octets).isNone = false :=
  Option.isNone_eq_false_iff.mpr h.isSome

end WlanAdmin
