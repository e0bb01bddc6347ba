import WlanAdmin.Proofs.Text.Digits
import WlanAdmin.Url.Ip

/-!
# WlanAdmin.Proofs.Url.Ip

Addresses are read back from what is written of them.

* `readIpv4_writeIpv4` : the four numbers of an IPv4 address.
* `longestRun_spec` : what is left out of an IPv6 address are zero pieces.
* `readIpv6_writeIpv6` : the pieces of an IPv6 address, with or without a double colon.
-/

namespace WlanAdmin.Url

/-! ## IPv4 -/

theorem readIpv4Number_toDigits :
    ∀ n < 256, readIpv4Number (Nat.toDigits 10 n) = some n := by decide +kernel

/-- The numbers of an IPv4 address. -/
def octets (address : UInt32) : List Nat :=
  let n := address.toNat
  [n / 0x1000000, n / 0x10000 % 256, n / 256 % 256, n % 256]

theorem octet_lt {address : UInt32} : ∀ n ∈ octets address, n < 256 := by
  have := address.toNat_lt
  intro n mem
  simp only [octets, List.mem_cons, List.not_mem_nil, or_false] at mem
  omega

theorem ne_of_mem_toDigits {base n : Nat} (low : 1 < base) (high : base ≤ 16) {c : Char}
    (mem : c ∈ Nat.toDigits base n) : c ≠ '.' ∧ c ≠ ':' ∧ c ≠ ']' := by
  obtain ⟨d, less, rfl⟩ := exists_digit_of_mem_toDigits low mem
  have all : ∀ d < 16, d.digitChar ≠ '.' ∧ d.digitChar ≠ ':' ∧ d.digitChar ≠ ']' := by decide
  exact all d (Nat.lt_of_lt_of_le less high)

theorem hostParts_writeIpv4 (address : UInt32) :
    hostParts (writeIpv4 address) = (octets address).map (Nat.toDigits 10) := by
  have split : (writeIpv4 address).splitOn '.' = (octets address).map (Nat.toDigits 10) := by
    refine List.splitOn_intercalate '.' (fun part mem dot => ?_) (by simp)
    obtain ⟨n, -, rfl⟩ := List.mem_map.mp mem
    exact (ne_of_mem_toDigits (by decide) (by decide) dot).1 rfl
  rw [hostParts, split]
  refine if_neg fun empty => ?_
  have last := empty.2
  simp only [octets, List.map_cons, List.map_nil, List.getLast?_cons_cons, List.getLast?_singleton,
    Option.some.injEq] at last
  exact Nat.toDigits_ne_nil last

theorem endsInNumber_writeIpv4 (address : UInt32) : endsInNumber (writeIpv4 address) = true := by
  have last := readIpv4Number_toDigits (address.toNat % 256) (Nat.mod_lt _ (by decide))
  rw [endsInNumber, hostParts_writeIpv4]
  simp only [octets, List.map_cons, List.map_nil, List.getLast?_cons_cons, List.getLast?_singleton,
    last, Option.isSome_some, Bool.or_true]

theorem ipv4OfNumbers_four {a b c d : Nat} (ha : a < 256) (hb : b < 256) (hc : c < 256)
    (hd : d < 256) :
    ipv4OfNumbers [a, b, c, d] = some (a * 0x1000000 + b * 0x10000 + c * 0x100 + d) := by
  have last : [a, b, c, d].getLast? = some d := rfl
  have front : [a, b, c, d].dropLast = [a, b, c] := rfl
  have small : [a, b, c].any (255 < ·) = false := by
    simp only [List.any_cons, List.any_nil, Bool.or_false, Bool.or_eq_false_iff,
      decide_eq_false_iff_not]
    omega
  have length : [a, b, c].length = 3 := rfl
  have fill : ¬ Nat.pow 256 (4 - 3) ≤ d := by
    rw [show Nat.pow 256 (4 - 3) = 256 from Nat.pow_one 256]
    exact Nat.not_le_of_lt hd
  have sum : [a, b, c].foldr (fun n rest => n * 0x1000000 + rest / 256) 0 + d =
      a * 0x1000000 + b * 0x10000 + c * 0x100 + d := by
    rw [List.foldr_cons, List.foldr_cons, List.foldr_cons, List.foldr_nil]
    omega
  simp only [ipv4OfNumbers, last, front, small, length, if_neg fill, sum]
  rfl

/-- The numbers of an IPv4 address are read back. -/
theorem readIpv4_writeIpv4 (address : UInt32) : readIpv4 (writeIpv4 address) = some address := by
  have small : ∀ n ∈ octets address, n < 256 := octet_lt
  have read : ((octets address).map (Nat.toDigits 10)).mapM readIpv4Number =
      some (octets address) := by
    rw [List.mapM_map]
    exact (mapM_some fun n mem => readIpv4Number_toDigits n (small n mem)).trans
      (congrArg some (List.map_id _))
  have value : ipv4OfNumbers (octets address) = some address.toNat := by
    have := address.toNat_lt
    simp only [octets, List.mem_cons, List.not_mem_nil, or_false, forall_eq_or_imp, forall_eq]
      at small
    obtain ⟨ha, hb, hc, hd⟩ := small
    refine (ipv4OfNumbers_four ha hb hc hd).trans (congrArg some ?_)
    omega
  rw [readIpv4, hostParts_writeIpv4, read]
  simp only [value, Option.map_some, UInt32.ofNat_toNat]

/-! ## IPv6 -/

theorem readPiece_toDigits (piece : UInt16) :
    readPiece (Nat.toDigits 16 piece.toNat) = some piece := by
  have short : (Nat.toDigits 16 piece.toNat).length ≤ 4 :=
    (Nat.length_toDigits_le_iff (by decide) (by decide)).mpr piece.toNat_lt
  have nonempty : (Nat.toDigits 16 piece.toNat).isEmpty = false :=
    List.isEmpty_eq_false_iff.mpr Nat.toDigits_ne_nil
  rw [readPiece, if_neg (by rw [nonempty]; simpa using short),
    readBase_toDigits (by decide) (by decide), Option.map_some, UInt16.ofNat_toNat]

theorem readPieces_toDigits (last : Bool) (pieces : List UInt16) :
    readPieces last (pieces.map fun piece => Nat.toDigits 16 piece.toNat) = some pieces := by
  have no_dot : ∀ piece : UInt16, (Nat.toDigits 16 piece.toNat).contains '.' = false := by
    intro piece
    refine Bool.eq_false_iff.mpr fun dot => ?_
    exact (ne_of_mem_toDigits (by decide) (by decide) (List.contains_iff_mem.mp dot)).1 rfl
  induction pieces with
  | nil => rfl
  | cons piece pieces ih =>
    cases pieces with
    | nil =>
      rw [List.map_singleton, readPieces, no_dot, Bool.and_false, readPiece_toDigits]
      rfl
    | cons next pieces =>
      rw [List.map_cons] at ih ⊢
      rw [List.map_cons, readPieces, readPiece_toDigits, ih]
      · rfl
      · simp

theorem writePieces_cons (piece next : UInt16) (pieces : List UInt16) :
    writePieces (piece :: next :: pieces) =
      Nat.toDigits 16 piece.toNat ++ ':' :: writePieces (next :: pieces) := by
  simp [writePieces, List.intercalate_cons_cons]

/-- The text of pieces starts with a digit. -/
theorem exists_writePieces_cons (piece : UInt16) (pieces : List UInt16) :
    ∃ c rest, writePieces (piece :: pieces) = c :: rest ∧ c ≠ ':' := by
  obtain ⟨c, digits, eq⟩ := List.exists_cons_of_ne_nil
    (Nat.toDigits_ne_nil (n := piece.toNat) (b := 16))
  have ne : c ≠ ':' :=
    (ne_of_mem_toDigits (n := piece.toNat) (by decide) (by decide) (eq ▸ List.mem_cons_self)).2.1
  cases pieces with
  | nil => exact ⟨c, digits, by simp [writePieces, eq], ne⟩
  | cons next pieces => exact ⟨c, _, by rw [writePieces_cons, eq]; rfl, ne⟩

theorem readSide_writePieces (last : Bool) (pieces : List UInt16) :
    readSide last (writePieces pieces) = some pieces := by
  cases pieces with
  | nil => rfl
  | cons piece pieces =>
    obtain ⟨c, rest, eq, -⟩ := exists_writePieces_cons piece pieces
    have split : (writePieces (piece :: pieces)).splitOn ':' =
        (piece :: pieces).map fun piece => Nat.toDigits 16 piece.toNat := by
      refine List.splitOn_intercalate ':' (fun part mem colon => ?_) (by simp)
      obtain ⟨other, -, rfl⟩ := List.mem_map.mp mem
      exact (ne_of_mem_toDigits (by decide) (by decide) colon).2.1 rfl
    rw [readSide, split, readPieces_toDigits, eq]
    rfl

/-! ### The double colon -/

theorem splitDoubleColon_digits {digits : List Char} (h : ':' ∉ digits) (seen rest : List Char) :
    splitDoubleColon seen (digits ++ rest) = splitDoubleColon (digits.reverse ++ seen) rest := by
  induction digits generalizing seen with
  | nil => rfl
  | cons c digits ih =>
    obtain ⟨ne, h⟩ := List.ne_and_not_mem_of_not_mem_cons h
    rw [List.cons_append, splitDoubleColon, ih h]
    · simp
    · rintro rest rfl
      exact absurd rfl ne

theorem splitDoubleColon_colon {c : Char} (h : c ≠ ':') (seen rest : List Char) :
    splitDoubleColon seen (':' :: c :: rest) = splitDoubleColon (':' :: seen) (c :: rest) := by
  rw [splitDoubleColon]
  rintro rest - eq
  exact h (List.cons.inj eq).1

/-- There is no double colon between pieces. -/
theorem splitDoubleColon_writePieces (pieces : List UInt16) (seen rest : List Char) :
    splitDoubleColon seen (writePieces pieces ++ rest) =
      splitDoubleColon ((writePieces pieces).reverse ++ seen) rest := by
  have no_colon : ∀ piece : UInt16, ':' ∉ Nat.toDigits 16 piece.toNat := fun piece colon =>
    (ne_of_mem_toDigits (by decide) (by decide) colon).2.1 rfl
  induction pieces generalizing seen with
  | nil => rfl
  | cons piece pieces ih =>
    cases pieces with
    | nil =>
      have one : writePieces [piece] = Nat.toDigits 16 piece.toNat := by simp [writePieces]
      rw [one, splitDoubleColon_digits (no_colon piece)]
    | cons next pieces =>
      obtain ⟨c, others, eq, ne⟩ := exists_writePieces_cons next pieces
      have colon : splitDoubleColon ((Nat.toDigits 16 piece.toNat).reverse ++ seen)
          (':' :: (writePieces (next :: pieces) ++ rest)) =
          splitDoubleColon (':' :: ((Nat.toDigits 16 piece.toNat).reverse ++ seen))
            (writePieces (next :: pieces) ++ rest) := by
        rw [eq]
        exact splitDoubleColon_colon ne _ _
      rw [writePieces_cons, List.append_assoc, List.cons_append,
        splitDoubleColon_digits (no_colon piece), colon, ih]
      simp

/-- The run that is left out are zero pieces. -/
theorem longestRun_spec (index : Nat) (pieces : List UInt16) :
    (longestRun index pieces).2 = 0 ∨ ∃ front back,
      pieces = front ++ List.replicate (longestRun index pieces).2 0 ++ back ∧
      (longestRun index pieces).1 = index + front.length := by
  induction pieces generalizing index with
  | nil => exact .inl rfl
  | cons piece rest ih =>
    rw [longestRun]
    split
    · refine .inr ⟨[], (piece :: rest).dropWhile (· == 0), ?_, rfl⟩
      have zeros : (piece :: rest).takeWhile (· == 0) =
          List.replicate (zeroRun (piece :: rest)) 0 :=
        List.eq_replicate_iff.mpr ⟨rfl, fun other mem =>
          eq_of_beq (List.all_eq_true.mp List.all_takeWhile other mem)⟩
      rw [List.nil_append, ← zeros, List.takeWhile_append_dropWhile]
    · rcases ih (index + 1) with none_left | ⟨front, back, eq, start⟩
      · exact .inl none_left
      · refine .inr ⟨piece :: front, back, ?_, ?_⟩
        · rw [List.cons_append, List.cons_append, ← eq]
        · rw [start, List.length_cons]
          omega

theorem vector_of_toList {pieces : List UInt16} (address : Vector UInt16 8)
    (h : pieces = address.toList) :
    (if h : pieces.toArray.size = 8 then some (⟨pieces.toArray, h⟩ : Vector UInt16 8) else none) =
      some address := by
  subst h
  rw [dif_pos (by simp)]
  exact congrArg some (Vector.toArray_inj.mp Array.toArray_toList)

/-- The pieces of an IPv6 address are read back. -/
theorem readIpv6_writeIpv6 (address : Vector UInt16 8) :
    readIpv6 (writeIpv6 address) = some address := by
  have size : address.toList.length = 8 := by simp
  have spec := longestRun_spec 0 address.toList
  rw [writeIpv6]
  generalize eq : longestRun 0 address.toList = run at spec
  obtain ⟨start, length⟩ := run
  dsimp only at spec ⊢
  split
  · have none_left := splitDoubleColon_writePieces address.toList [] []
    rw [List.append_nil] at none_left
    rw [readIpv6, none_left]
    simp only [splitDoubleColon, readSide_writePieces]
    exact vector_of_toList address rfl
  · obtain ⟨front, back, pieces, rfl⟩ := spec.resolve_left (by omega)
    rw [Nat.zero_add] at *
    have total : front.length + length + back.length = 8 := by
      rw [← size, pieces, List.length_append, List.length_append, List.length_replicate]
    have before : address.toList.take front.length = front := by simp [pieces]
    have after : address.toList.drop (front.length + length) = back := by
      rw [pieces]
      exact List.drop_left' (by simp)
    have here := splitDoubleColon_writePieces front [] (':' :: ':' :: writePieces back)
    rw [before, after, List.append_assoc, List.cons_append, List.cons_append, List.nil_append,
      readIpv6, here]
    simp only [splitDoubleColon, List.append_nil, List.reverse_reverse, readSide_writePieces]
    rw [if_neg (by omega), show 8 - front.length - back.length = length by omega]
    exact vector_of_toList address pieces.symm

theorem mem_writePieces {pieces : List UInt16} {c : Char} (mem : c ∈ writePieces pieces) :
    c = ':' ∨ ∃ d < 16, c = d.digitChar := by
  refine (mem_intercalate mem).imp_right fun ⟨part, inside, mem⟩ => ?_
  obtain ⟨piece, -, rfl⟩ := List.mem_map.mp inside
  exact exists_digit_of_mem_toDigits (by decide) mem

/-- The characters of IPv6 addresses. -/
theorem mem_writeIpv6 {address : Vector UInt16 8} {c : Char} (mem : c ∈ writeIpv6 address) :
    c = ':' ∨ ∃ d < 16, c = d.digitChar := by
  rw [writeIpv6] at mem
  dsimp only at mem
  split at mem
  · exact mem_writePieces mem
  · rcases List.mem_append.mp mem with mem | mem
    · rcases List.mem_append.mp mem with mem | mem
      · exact mem_writePieces mem
      · exact .inl (by simpa using mem)
    · exact mem_writePieces mem

end WlanAdmin.Url
