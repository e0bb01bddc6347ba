import Mathlib.Tactic.IntervalCases
import WlanAdmin.Proofs.Text.Utf8
import WlanAdmin.Text.Replacement

/-!
# WlanAdmin.Proofs.Text.Replacement

Decoding with replacement gives back every text that is encoded, and replaces nothing in it.

* `ofFirst_two`, `ofFirst_three`, `ofFirst_four` : the state after the first octet of a character.
* `decodeFrom_tail`      : an octet that goes on with a character.
* `decodeReplacing_utf8` : the octets of a text are decoded to its characters.
-/

namespace WlanAdmin

open Utf8State

/-! ## First octets -/

theorem ofFirst_two {a : Nat} (least : 2 ≤ a) (most : a < 32) :
    ofFirst (UInt8.ofNat (a + 192)) = some (.inside 1 a 0x80 0xBF) := by
  interval_cases a <;> rfl

/-- What is too short for three octets, and what is a surrogate, is ruled out by the second one. -/
theorem ofFirst_three {a : Nat} (most : a < 16) :
    ofFirst (UInt8.ofNat (a + 224)) =
      some (.inside 2 a (if a = 0 then 0xA0 else 0x80) (if a = 13 then 0x9F else 0xBF)) := by
  interval_cases a <;> rfl

theorem ofFirst_four {a : Nat} (most : a ≤ 4) :
    ofFirst (UInt8.ofNat (a + 240)) =
      some (.inside 3 a (if a = 0 then 0x90 else 0x80) (if a = 4 then 0x8F else 0xBF)) := by
  interval_cases a <;> rfl

theorem decodeFrom_first {b : UInt8} {state : Utf8State} (starts : ofFirst b = some state)
    (rest : Bytes) : decodeFrom .start (b :: rest) = decodeFrom state rest := by
  have high : ¬ b < 0x80 := by
    intro low
    have octet : b.toNat < 0x80 := UInt8.lt_iff_toNat_lt.mp low
    simp only [ofFirst, Bool.and_eq_true, decide_eq_true_eq, UInt8.le_iff_toNat_le, beq_iff_eq,
      ← UInt8.toNat_inj, UInt8.reduceToNat] at starts
    grind
  rw [decodeFrom, decodeStep, decodeFirst, if_neg high, starts]
  rfl

theorem decodeFrom_ascii {b : UInt8} (low : b < 0x80) (rest : Bytes) :
    decodeFrom .start (b :: rest) = Char.ofNat b.toNat :: decodeFrom .start rest := by
  rw [decodeFrom, decodeStep, decodeFirst, if_pos low]
  rfl

/-! ## Octets that follow -/

theorem decodeFrom_tail {owed code d : Nat} {low high : UInt8} (small : d < 64)
    (least : low.toNat ≤ d + 128) (most : d + 128 ≤ high.toNat) (rest : Bytes) :
    decodeFrom (.inside owed code low high) (UInt8.ofNat (d + 128) :: rest) =
      if owed ≤ 1 then Char.ofNat (code * 64 + d) :: decodeFrom .start rest
      else decodeFrom (.inside (owed - 1) (code * 64 + d) 0x80 0xBF) rest := by
  have octet : (UInt8.ofNat (d + 128)).toNat = d + 128 :=
    UInt8.toNat_ofNat_of_lt' (show d + 128 < 256 by omega)
  have least : low ≤ UInt8.ofNat (d + 128) := by rwa [UInt8.le_iff_toNat_le, octet]
  have most : UInt8.ofNat (d + 128) ≤ high := by rwa [UInt8.le_iff_toNat_le, octet]
  rw [decodeFrom, decodeStep, if_pos (by simp only [least, most, decide_true, Bool.and_self]),
    octet, Nat.add_sub_cancel]
  by_cases last : owed ≤ 1
  · simp only [if_pos last, List.singleton_append]
  · simp only [if_neg last, List.nil_append]

/-! ## Characters and texts -/

/-- The cases are the numbers of octets. In each, the digits of the code point to base 64 are
gathered again. -/
theorem decodeFrom_utf8Char (c : Char) (rest : Bytes) :
    decodeFrom .start (utf8Char c ++ rest) = c :: decodeFrom .start rest := by
  have valid : c.toNat < 0xD800 ∨ 0xDFFF < c.toNat ∧ c.toNat < 0x110000 := c.valid
  have back : ∀ n, n = c.toNat → Char.ofNat n = c := by
    rintro n rfl
    exact Char.ofNat_toNat c
  have code : c.val.toNat = c.toNat := rfl
  simp only [utf8Char, String.utf8EncodeChar, code]
  generalize c.toNat = n at valid back
  by_cases one : n ≤ 127
  · have octet : (UInt8.ofNat n).toNat = n := UInt8.toNat_ofNat_of_lt' (show n < 256 by omega)
    have low : UInt8.ofNat n < 0x80 := by
      rw [UInt8.lt_iff_toNat_lt, octet]
      exact Nat.lt_succ_of_le one
    rw [if_pos one, List.singleton_append, decodeFrom_ascii low, octet, back n rfl]
  rw [if_neg one]
  by_cases two : n ≤ 2047
  · have first : n / 64 % 32 = n / 64 := Nat.mod_eq_of_lt (by omega)
    rw [if_pos two, first, List.cons_append, List.singleton_append,
      decodeFrom_first (ofFirst_two (by omega) (by omega)),
      decodeFrom_tail (by omega) (by simp) (by simp; omega), if_pos (by decide),
      back _ (by omega)]
  rw [if_neg two]
  by_cases three : n ≤ 65535
  · have first : n / 4096 % 16 = n / 4096 := Nat.mod_eq_of_lt (by omega)
    rw [if_pos three, first, List.cons_append, List.cons_append, List.singleton_append,
      decodeFrom_first (ofFirst_three (by omega)),
      decodeFrom_tail (by omega) (by split <;> simp; omega) (by split <;> simp <;> omega),
      if_neg (by decide), decodeFrom_tail (by omega) (by simp) (by simp; omega),
      if_pos (by decide), back _ (by omega)]
  · have first : n / 262144 % 8 = n / 262144 := Nat.mod_eq_of_lt (by omega)
    rw [if_neg three, first, List.cons_append, List.cons_append, List.cons_append,
      List.singleton_append, decodeFrom_first (ofFirst_four (by omega)),
      decodeFrom_tail (by omega) (by split <;> simp; omega) (by split <;> simp <;> omega),
      if_neg (by decide), decodeFrom_tail (by omega) (by simp) (by simp; omega),
      if_neg (by decide), decodeFrom_tail (by omega) (by simp) (by simp; omega),
      if_pos (by decide), back _ (by omega)]

theorem decodeReplacing_utf8 (text : String) : decodeReplacing (utf8 text) = text.toList := by
  rw [utf8_eq, decodeReplacing]
  induction text.toList with
  | nil => rfl
  | cons c chars ih => rw [List.flatMap_cons, decodeFrom_utf8Char, ih]

end WlanAdmin
