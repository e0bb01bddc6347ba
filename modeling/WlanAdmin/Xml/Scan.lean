import WlanAdmin.Xml.Lexeme

/-!
# WlanAdmin.Xml.Scan

Cutting a document into lexemes, from left to right and without regard to which elements are open.

* `next` : the first lexeme of the octets and what follows it.
* `scan` : all lexemes, and whether the octets ended between two of them.
-/

namespace WlanAdmin.Xml

/-- Reads up to the octet at which `step` stops; that octet is dropped. `seen` holds what was read
before, last octet first. -/
def cutAt {σ : Type} (step : σ → UInt8 → Option σ) : σ → Bytes → Bytes → Option (Bytes × Bytes)
  | _, _, [] => none
  | state, seen, b :: rest =>
    match step state b with
    | none => some (seen.reverse, rest)
    | some state => cutAt step state (b :: seen) rest

/-- A tag ends at the first `>` outside quotes. The state is the quote it is in. -/
def tagStep (quote : Option UInt8) (b : UInt8) : Option (Option UInt8) :=
  match quote with
  | some q => some (if b == q then none else quote)
  | none =>
    if b == 0x3E then none
    else some (if b == 0x22 || b == 0x27 then some b else none)

/-- A comment ends at the first `>` after `--`, the dashes of its opening not counted. The state is
the number of octets read and of dashes just before. -/
def commentStep (state : Nat × Nat) (b : UInt8) : Option (Nat × Nat) :=
  if b == 0x3E && 4 < state.1 && 2 ≤ state.2 then none
  else some (state.1 + 1, if b == 0x2D then state.2 + 1 else 0)

/-- A CDATA section ends at the first `>` after `]]`. The state is the number of brackets just
before. -/
def cdataStep (brackets : Nat) (b : UInt8) : Option Nat :=
  if b == 0x3E && 2 ≤ brackets then none else some (if b == 0x5D then brackets + 1 else 0)

/-- An instruction ends at the first `>` after `?`. The state says whether a `?` stands just
before. -/
def instructionStep (mark : Bool) (b : UInt8) : Option Bool :=
  if b == 0x3E && mark then none else some (b == 0x3F)

/-- A document type ends at its own `>`. The state is the number of `<` that are open. -/
def doctypeStep (depth : Nat) (b : UInt8) : Option Nat :=
  if b == 0x3C then some (depth + 1)
  else if b == 0x3E then (if depth = 0 then none else some (depth - 1))
  else some depth

/-- `!DOCTYPE` in either case, and something after it that is not blank. -/
def isDoctype (body : Bytes) : Bool :=
  (body.take 8).map lowerByte == utf8 "!doctype" && (body.drop 8).any fun b => !isBlank b

/-- The first lexeme of some octets. -/
inductive Step where
  /-- There are no octets. -/
  | finished
  /-- The octets start no lexeme, or one that does not end. -/
  | fault
  | lexeme (first : Lexeme) (rest : Bytes)

/-- Makes a lexeme of a body that was cut, if it is a good one. -/
def Step.ofCut (good : Bytes → Bool) (make : Bytes → Lexeme) : Option (Bytes × Bytes) → Step
  | none => .fault
  | some (body, rest) => if good body then .lexeme (make body) rest else .fault

/-- A start tag; a slash just before its end makes it an empty element. -/
def tagLexeme (body : Bytes) : Lexeme :=
  if body.getLast? = some 0x2F then .emptyTag body.dropLast else .startTag body

/-- The lexeme after a `<`. -/
def markup : Bytes → Step
  | [] => .fault
  | 0x21 :: rest =>
    match rest with
    | 0x5B :: _ =>
      .ofCut (utf8 "![CDATA[").isPrefixOf .cdata (cutAt cdataStep 0 [] (0x21 :: rest))
    | 0x2D :: _ =>
      .ofCut (utf8 "!--").isPrefixOf .comment (cutAt commentStep (0, 0) [] (0x21 :: rest))
    | 0x44 :: _ | 0x64 :: _ => .ofCut isDoctype .doctype (cutAt doctypeStep 0 [] (0x21 :: rest))
    | _ => .fault
  | 0x3F :: rest =>
    .ofCut (fun body => 1 < body.length) .instruction
      (cutAt instructionStep false [] (0x3F :: rest))
  | 0x2F :: rest => .ofCut (fun _ => true) .endTag (cutAt tagStep none [] rest)
  | input => .ofCut (fun _ => true) tagLexeme (cutAt tagStep none [] input)

/-- Octets that stand for themselves in content. -/
def isTextByte (b : UInt8) : Bool := b != 0x3C && b != 0x26

/-- A reference ends at the first semicolon, before any further markup. -/
def reference (input : Bytes) : Step :=
  let name := input.takeWhile fun b => isTextByte b && b != 0x3B
  match input.dropWhile fun b => isTextByte b && b != 0x3B with
  | 0x3B :: rest => .lexeme (.reference name) rest
  | _ => .fault

/-- The first lexeme of some octets and what follows it. -/
def next : Bytes → Step
  | [] => .finished
  | 0x3C :: rest => markup rest
  | 0x26 :: rest => reference rest
  | b :: rest => .lexeme (.text (b :: rest.takeWhile isTextByte)) (rest.dropWhile isTextByte)

theorem cutAt_source {σ : Type} {step : σ → UInt8 → Option σ} {state : σ} {seen input : Bytes}
    {body rest : Bytes} (h : cutAt step state seen input = some (body, rest)) :
    ∃ b, seen.reverse ++ input = body ++ b :: rest := by
  induction input generalizing state seen with
  | nil => simp [cutAt] at h
  | cons b input ih =>
    simp only [cutAt] at h
    split at h
    · simp only [Option.some.injEq, Prod.mk.injEq] at h
      exact ⟨b, by simp [h.1.symm, h.2.symm]⟩
    · obtain ⟨c, hc⟩ := ih h
      exact ⟨c, by simpa using hc⟩

theorem cutAt_length {σ : Type} {step : σ → UInt8 → Option σ} {state : σ} {input : Bytes}
    {body rest : Bytes} (h : cutAt step state [] input = some (body, rest)) :
    rest.length < input.length := by
  obtain ⟨b, hb⟩ := cutAt_source h
  have := congrArg List.length hb
  simp at this
  omega

theorem ofCut_length {good : Bytes → Bool} {make : Bytes → Lexeme} {σ : Type}
    {step : σ → UInt8 → Option σ} {state : σ} {input : Bytes} {first : Lexeme} {rest : Bytes}
    (h : Step.ofCut good make (cutAt step state [] input) = .lexeme first rest) :
    rest.length < input.length := by
  unfold Step.ofCut at h
  split at h
  · cases h
  · rename_i body tail hcut
    split at h
    · cases h
      exact cutAt_length hcut
    · cases h

theorem markup_length {input : Bytes} {first : Lexeme} {rest : Bytes}
    (h : markup input = .lexeme first rest) : rest.length < input.length := by
  unfold markup at h
  split at h
  · cases h
  · split at h
    · exact ofCut_length h
    · exact ofCut_length h
    · exact ofCut_length h
    · exact ofCut_length h
    · cases h
  · exact ofCut_length h
  · exact Nat.lt_succ_of_lt (ofCut_length h)
  · exact ofCut_length h

theorem length_dropWhile_le {α : Type} (p : α → Bool) (l : List α) :
    (l.dropWhile p).length ≤ l.length :=
  (List.dropWhile_sublist p).length_le

/-- A step takes at least one octet. -/
theorem next_length {input : Bytes} {first : Lexeme} {rest : Bytes}
    (h : next input = .lexeme first rest) : rest.length < input.length := by
  unfold next at h
  split at h
  · cases h
  · exact Nat.lt_succ_of_lt (markup_length h)
  · rename_i tail
    unfold reference at h
    have := length_dropWhile_le (fun b => isTextByte b && b != 0x3B) tail
    simp only at h
    split at h
    · rename_i after heq
      cases h
      rw [heq] at this
      simp at this ⊢
      omega
    · cases h
  · rename_i b tail _ _
    cases h
    have := length_dropWhile_le isTextByte tail
    simp
    omega

/-- Lexemes, and whether nothing was wrong after the last of them. -/
structure Lexemes where
  all : List Lexeme
  complete : Bool
  deriving Repr

/-- Puts a lexeme in front. -/
def Lexemes.cons (first : Lexeme) (rest : Lexemes) : Lexemes := ⟨first :: rest.all, rest.complete⟩

/-- The lexemes of some octets. -/
def scan (input : Bytes) : Lexemes :=
  match _h : next input with
  | .finished => ⟨[], true⟩
  | .fault => ⟨[], false⟩
  | .lexeme first rest => .cons first (scan rest)
termination_by input.length
decreasing_by exact next_length ‹_›

end WlanAdmin.Xml
