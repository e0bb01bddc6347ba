import WlanAdmin.Envelope.WellFormed
import WlanAdmin.Proofs.Xml.Matched

/-!
# WlanAdmin.Proofs.Envelope.Depth

What the check of a document's form counts. Only end tags that close something are read, so the
depth never has to be cut off at zero: it is the number of elements that are open, after every
lexeme.

* `unfinished_front`      : each beginning of a document is balanced content with some elements
  still open.
* `Unfinished.starts_eq`  : as many of them as there are start tags more than end tags.
* `checkFrom_depth`       : and that many the walk has counted.
* `checkWellFormed_depth` : the count after each lexeme, and the verdict at the end.
-/

namespace WlanAdmin.Xml

namespace Lexeme

def isStart : Lexeme → Bool
  | .startTag _ => true
  | _ => false

def isEnd : Lexeme → Bool
  | .endTag _ => true
  | _ => false

/-- Whether an element begins here. -/
def isElement : Lexeme → Bool
  | .startTag _ | .emptyTag _ => true
  | _ => false

theorem IsLeaf.plain {first : Lexeme} (h : first.IsLeaf) :
    first.isStart = false ∧ first.isEnd = false ∧ first.isElement = false := by
  cases first <;> first | exact h.elim | exact ⟨rfl, rfl, rfl⟩

end Lexeme

/-! ## Beginnings -/

theorem unfinished_front {document : Bytes} {front back : List Lexeme}
    (parts : (read document).all = front ++ back) : ∃ u : Unfinished, u.lexemes = front := by
  have kept := keepMatched_front parts
  obtain ⟨u, ended, whole⟩ := keepMatched_unfinished front true
  rw [whole] at kept
  exact ⟨u, congrArg Lexemes.all kept⟩

/-! ## Counting tags -/

theorem Balanced.starts_eq (content : Balanced) :
    content.lexemes.countP Lexeme.isStart = content.lexemes.countP Lexeme.isEnd := by
  induction content with
  | nil => rfl
  | leaf first plain rest ih =>
    obtain ⟨no_start, no_end, -⟩ := plain.plain
    simp [lexemes, no_start, no_end, ih]
  | empty tag rest ih => simp [lexemes, Lexeme.isStart, Lexeme.isEnd, ih]
  | element tag inner close matched rest ihInner ihRest =>
    simp only [lexemes, List.countP_cons, List.countP_append, Lexeme.isStart, Lexeme.isEnd, ihInner,
      ihRest]
    simp
    omega

/-- Where there is an element at all, there is one at the top. -/
theorem Balanced.any_element (content : Balanced) :
    content.lexemes.any Lexeme.isElement = !content.tags.isEmpty := by
  induction content with
  | nil => rfl
  | leaf first plain rest ih =>
    obtain ⟨-, -, no_element⟩ := plain.plain
    simp [lexemes, tags, no_element, ih]
  | empty tag rest ih => simp [lexemes, tags, Lexeme.isElement]
  | element tag inner close matched rest ihInner ihRest =>
    simp [lexemes, tags, Lexeme.isElement]

theorem Unfinished.starts_eq (u : Unfinished) :
    u.lexemes.countP Lexeme.isStart = u.lexemes.countP Lexeme.isEnd + u.depth := by
  induction u with
  | top content => exact content.starts_eq
  | inside before tag inner ih =>
    simp only [lexemes, depth, List.countP_append, List.countP_cons, before.starts_eq, ih]
    simp [Lexeme.isStart, Lexeme.isEnd]
    omega

end WlanAdmin.Xml

namespace WlanAdmin

open Xml

/-! ## The count -/

theorem checkFrom_leaf {first : Lexeme} (plain : first.IsLeaf) (depth : Nat) (seen : Bool)
    (rest : List Lexeme) (complete : Bool) :
    checkFrom depth seen (first :: rest) complete = checkFrom depth seen rest complete := by
  cases first <;> first | exact plain.elim | rfl

/-- Balanced content leaves the depth as it was. -/
theorem checkFrom_content (content : Balanced) (depth : Nat) (seen : Bool) (rest : List Lexeme)
    (complete : Bool) :
    checkFrom depth seen (content.lexemes ++ rest) complete =
      checkFrom depth (seen || !content.tags.isEmpty) rest complete := by
  induction content generalizing depth seen rest with
  | nil => rw [Balanced.tags, List.isEmpty_nil, Bool.not_true, Bool.or_false]; rfl
  | leaf first plain others ih =>
    rw [Balanced.lexemes, List.cons_append, checkFrom_leaf plain, ih, Balanced.tags]
  | empty tag others ih =>
    rw [Balanced.lexemes, List.cons_append, checkFrom, ih, Balanced.tags]
    simp
  | element tag inner close matched others ihInner ihOthers =>
    rw [Balanced.lexemes, List.cons_append, List.append_assoc, List.cons_append, checkFrom,
      ihInner, checkFrom, ihOthers, Nat.add_sub_cancel, Balanced.tags]
    simp

/-- The walk over a beginning of a document counts the elements that are open behind it. -/
theorem checkFrom_depth (u : Unfinished) (depth : Nat) (seen : Bool) (rest : List Lexeme)
    (complete : Bool) :
    checkFrom depth seen (u.lexemes ++ rest) complete =
      checkFrom (depth + u.depth) (seen || u.lexemes.any Lexeme.isElement) rest complete := by
  induction u generalizing depth seen with
  | top content =>
    rw [Unfinished.lexemes, checkFrom_content, content.any_element, Unfinished.depth, Nat.add_zero]
  | inside before tag inner ih =>
    have deeper : depth + 1 + inner.depth = depth + (inner.depth + 1) := by omega
    rw [Unfinished.lexemes, List.append_assoc, checkFrom_content, List.cons_append, checkFrom, ih,
      Unfinished.depth, deeper]
    simp [Lexeme.isElement]

/-- An element that is open has begun. -/
theorem Xml.Unfinished.any_of_depth {u : Unfinished} (deep : 0 < u.depth) :
    u.lexemes.any Lexeme.isElement = true := by
  cases u with
  | top content => cases deep
  | inside before tag inner => simp [lexemes, Lexeme.isElement]

/-- A document that passes has been read to its end. -/
theorem complete_of_checkWellFormed {document : Bytes} (h : checkWellFormed document = .ok ()) :
    (read document).complete = true := by
  obtain ⟨u, complete, found⟩ := read_unfinished document
  have walked := checkFrom_depth u 0 false [] complete
  rw [List.append_nil] at walked
  rw [checkWellFormed, found] at h
  simp only [walked] at h
  rw [found]
  cases complete with
  | true => rfl
  | false => cases h

section Verdict

variable {document : Bytes} {u : Unfinished} (found : read document = ⟨u.lexemes, true⟩)

include found

/-- What the check says at the end of a document that has been read. -/
theorem checkWellFormed_eq :
    checkWellFormed document =
      if 0 < u.depth then .error (.unclosedElements u.depth)
      else if u.lexemes.any Lexeme.isElement then .ok () else .error .emptyDocument := by
  have walked := checkFrom_depth u 0 false [] true
  rw [List.append_nil, Nat.zero_add, Bool.false_or] at walked
  rw [checkWellFormed, found]
  simp only [walked, checkFrom, Bool.not_true, Bool.false_eq_true, if_false]

theorem checkWellFormed_unclosed_iff (n : Nat) :
    checkWellFormed document = .error (.unclosedElements n) ↔ 0 < n ∧ u.depth = n := by
  rw [checkWellFormed_eq found]
  split
  · rename_i deep
    constructor
    · intro failed
      cases failed
      exact ⟨deep, rfl⟩
    · rintro ⟨-, rfl⟩
      rfl
  · constructor
    · intro failed
      split at failed <;> cases failed
    · omega

theorem checkWellFormed_empty_iff :
    checkWellFormed document = .error .emptyDocument ↔
      u.lexemes.any Lexeme.isElement = false := by
  rw [checkWellFormed_eq found]
  split
  · rename_i deep
    simp [Unfinished.any_of_depth deep]
  · cases u.lexemes.any Lexeme.isElement <;> simp

theorem checkWellFormed_passes_iff :
    checkWellFormed document = .ok () ↔
      u.depth = 0 ∧ u.lexemes.any Lexeme.isElement = true := by
  rw [checkWellFormed_eq found]
  split
  · rename_i deep
    simp [Nat.ne_of_gt deep]
  · rename_i closed
    have level : u.depth = 0 := by omega
    cases u.lexemes.any Lexeme.isElement <;> simp [level]

end Verdict

/-- The check counts the elements that are open after each lexeme: as many as there have been start
tags more than end tags, and one at least before each end tag. So where the markup can be read to
its end, what the check says is settled by the tags alone. -/
theorem checkWellFormed_depth (document : Bytes) (whole : (read document).complete = true) :
    (∀ front back, (read document).all = front ++ back →
      ∃ u : Unfinished, u.lexemes = front ∧
        (∀ rest complete, checkFrom 0 false (front ++ rest) complete =
          checkFrom u.depth (front.any Lexeme.isElement) rest complete) ∧
        front.countP Lexeme.isStart = front.countP Lexeme.isEnd + u.depth ∧
        ∀ close rest, back = .endTag close :: rest → 0 < u.depth) ∧
    (∀ n, checkWellFormed document = .error (.unclosedElements n) ↔ 0 < n ∧
      (read document).all.countP Lexeme.isStart =
        (read document).all.countP Lexeme.isEnd + n) ∧
    (checkWellFormed document = .error .emptyDocument ↔
      ∀ lexeme ∈ (read document).all, lexeme.isElement = false) ∧
    (checkWellFormed document = .ok () ↔
      (read document).all.countP Lexeme.isStart = (read document).all.countP Lexeme.isEnd ∧
        ∃ lexeme ∈ (read document).all, lexeme.isElement = true) := by
  obtain ⟨u, complete, found⟩ := read_unfinished document
  obtain rfl : complete = true := by rwa [found] at whole
  have all : (read document).all = u.lexemes := congrArg Lexemes.all found
  have balance := u.starts_eq
  refine ⟨?_, ?_, ?_, ?_⟩
  · intro front back parts
    obtain ⟨v, rfl⟩ := unfinished_front parts
    refine ⟨v, rfl, ?_, v.starts_eq, ?_⟩
    · intro rest complete
      have walked := checkFrom_depth v 0 false rest complete
      rwa [Nat.zero_add, Bool.false_or] at walked
    · rintro close rest rfl
      -- one element less is open behind the end tag
      have longer : (read document).all = (v.lexemes ++ [.endTag close]) ++ rest := by
        simpa using parts
      obtain ⟨after, same⟩ := unfinished_front longer
      have before := v.starts_eq
      have behind := after.starts_eq
      simp [same, Lexeme.isStart, Lexeme.isEnd] at behind
      omega
  · intro n
    rw [checkWellFormed_unclosed_iff found, all]
    omega
  · rw [checkWellFormed_empty_iff found, all]
    simp
  · rw [checkWellFormed_passes_iff found, all, List.any_eq_true]
    constructor
    · rintro ⟨level, any⟩
      exact ⟨by omega, any⟩
    · rintro ⟨level, any⟩
      exact ⟨by omega, any⟩

/-- Two elements that are left open; the end tag of one of them stands in a comment. -/
theorem checkWellFormed_depth_open :
    let document := utf8 "<a><!-- </a> --><b/><c>x"
    (read document).complete = true ∧
      checkWellFormed document = .error (.unclosedElements 2) ∧
      (DecodeError.unclosedElements 2).message? =
        some "document ends with 2 unclosed element(s)" := by
  intro document
  have whole : (read document).complete = true := by decide +kernel
  obtain ⟨-, unclosed, -⟩ := checkWellFormed_depth document whole
  exact ⟨whole, (unclosed 2).mpr ⟨by decide, by decide +kernel⟩, by decide +kernel⟩

end WlanAdmin
