import WlanAdmin.Xml.Scan

/-!
# WlanAdmin.Proofs.Xml.Reads

The scanner reads a document in parts: where one part ends between two lexemes, what follows is read
as if nothing had come before.

* `next_append` : what follows a lexeme does not change it.
* `next_source` : a lexeme and what follows it are the octets they were read from.
* `Reads`       : octets that are read to their end as some lexemes.
* `Reads.append`, `Reads.cons` : reading two parts one after the other.
-/

namespace WlanAdmin.Xml

/-! ## What follows a lexeme -/

theorem cutAt_append {σ : Type} {step : σ → UInt8 → Option σ} {state : σ} {seen input : Bytes}
    {body rest : Bytes} (h : cutAt step state seen input = some (body, rest)) (more : Bytes) :
    cutAt step state seen (input ++ more) = some (body, rest ++ more) := by
  induction input generalizing state seen with
  | nil => cases h
  | cons b input ih =>
    simp only [List.cons_append, cutAt] at h ⊢
    split at h
    · cases h
      rfl
    · exact ih h

theorem ofCut_append {good : Bytes → Bool} {make : Bytes → Lexeme} {σ : Type}
    {step : σ → UInt8 → Option σ} {state : σ} {input : Bytes} {first : Lexeme} {rest : Bytes}
    (h : Step.ofCut good make (cutAt step state [] input) = .lexeme first rest) (more : Bytes) :
    Step.ofCut good make (cutAt step state [] (input ++ more)) = .lexeme first (rest ++ more) := by
  unfold Step.ofCut at h
  split at h
  · cases h
  · rename_i body tail hcut
    rw [cutAt_append hcut more]
    split at h
    · rename_i hg
      cases h
      simp [Step.ofCut, hg]
    · cases h

theorem markup_append {input : Bytes} {first : Lexeme} {rest : Bytes}
    (h : markup input = .lexeme first rest) (more : Bytes) :
    markup (input ++ more) = .lexeme first (rest ++ more) := by
  unfold markup at h
  split at h
  · cases h
  · split at h
    · exact ofCut_append h more
    · exact ofCut_append h more
    · exact ofCut_append h more
    · exact ofCut_append h more
    · cases h
  · exact ofCut_append h more
  · exact ofCut_append h more
  · rename_i input hne h21 h3f h2f
    have h := ofCut_append h more
    obtain ⟨b, tail, rfl⟩ := List.exists_cons_of_ne_nil hne
    rw [List.cons_append] at h ⊢
    rw [markup]
    · exact h
    · nofun
    · rintro rest ⟨⟩
      exact h21 _ rfl
    · rintro rest ⟨⟩
      exact h3f _ rfl
    · rintro rest ⟨⟩
      exact h2f _ rfl

theorem reference_append {input : Bytes} {first : Lexeme} {rest : Bytes}
    (h : reference input = .lexeme first rest) (more : Bytes) :
    reference (input ++ more) = .lexeme first (rest ++ more) := by
  unfold reference at h ⊢
  simp only at h ⊢
  split at h
  · rename_i after heq
    cases h
    have hlen : (input.takeWhile fun b => isTextByte b && b != 0x3B).length ≠ input.length := by
      intro hl
      have := congrArg List.length
        (List.takeWhile_append_dropWhile (p := fun b => isTextByte b && b != 0x3B) (l := input))
      rw [heq] at this
      simp at this
      omega
    rw [List.dropWhile_append, List.takeWhile_append, if_neg hlen, heq]
    simp
  · cases h

/-- Octets before which a run of text ends. -/
def EndsText (octets : Bytes) : Prop := ∀ b ∈ octets.head?, isTextByte b = false

theorem endsText_nil : EndsText [] := nofun

theorem endsText_cons (rest : Bytes) : EndsText (0x3C :: rest) := by
  intro b hb
  cases hb
  rfl

theorem takeWhile_head {p : UInt8 → Bool} {octets : Bytes} (h : ∀ b ∈ octets.head?, p b = false) :
    octets.takeWhile p = [] := by
  cases octets with
  | nil => rfl
  | cons b rest => simp [h b rfl]

theorem dropWhile_head {p : UInt8 → Bool} {octets : Bytes} (h : ∀ b ∈ octets.head?, p b = false) :
    octets.dropWhile p = octets := by
  cases octets with
  | nil => rfl
  | cons b rest => simp [h b rfl]

def Lexeme.isText : Lexeme → Bool
  | .text _ => true
  | _ => false

/-- What follows a lexeme does not change it, unless it is text that would go on. -/
theorem next_append {input : Bytes} {first : Lexeme} {rest more : Bytes}
    (h : next input = .lexeme first rest)
    (ends : first.isText = true → rest = [] → EndsText more) :
    next (input ++ more) = .lexeme first (rest ++ more) := by
  unfold next at h
  split at h
  · cases h
  · exact markup_append h more
  · exact reference_append h more
  · rename_i b tail h3c h26
    cases h
    rw [List.cons_append, next]
    · rw [List.takeWhile_append, List.dropWhile_append]
      have split := congrArg List.length
        (List.takeWhile_append_dropWhile (p := isTextByte) (l := tail))
      rw [List.length_append] at split
      by_cases hrest : tail.dropWhile isTextByte = []
      · have hl : (tail.takeWhile isTextByte).length = tail.length := by
          rw [hrest] at split; simpa using split
        have hm := ends rfl hrest
        have ht : tail.takeWhile isTextByte = tail := by
          have := List.takeWhile_append_dropWhile (p := isTextByte) (l := tail)
          rwa [hrest, List.append_nil] at this
        rw [if_pos hl, takeWhile_head hm, dropWhile_head hm, hrest, ht]
        simp
      · have hl : (tail.takeWhile isTextByte).length ≠ tail.length := by
          have := List.length_pos_iff.mpr hrest
          omega
        rw [if_neg hl, if_neg (by simpa using hrest)]
    · exact h3c
    · exact h26

/-! ## The octets of a lexeme -/

/-- Whatever is cut ends at a `>`. -/
def EndsAtAngle {σ : Type} (step : σ → UInt8 → Option σ) : Prop :=
  ∀ state b, step state b = none → b = 0x3E

theorem tagStep_endsAtAngle : EndsAtAngle tagStep := by
  intro quote b h
  cases quote with
  | some q => cases h
  | none =>
    by_cases hb : b = 0x3E
    · exact hb
    · simp [tagStep, hb] at h

theorem commentStep_endsAtAngle : EndsAtAngle commentStep := by
  intro state b h
  by_cases hb : b = 0x3E
  · exact hb
  · simp [commentStep, hb] at h

theorem cdataStep_endsAtAngle : EndsAtAngle cdataStep := by
  intro brackets b h
  by_cases hb : b = 0x3E
  · exact hb
  · simp [cdataStep, hb] at h

theorem instructionStep_endsAtAngle : EndsAtAngle instructionStep := by
  intro mark b h
  by_cases hb : b = 0x3E
  · exact hb
  · simp [instructionStep, hb] at h

theorem doctypeStep_endsAtAngle : EndsAtAngle doctypeStep := by
  intro depth b h
  unfold doctypeStep at h
  by_cases hb : b = 0x3E
  · exact hb
  · split at h
    · cases h
    · simp [hb] at h

theorem cutAt_angle {σ : Type} {step : σ → UInt8 → Option σ} (ends : EndsAtAngle step) {state : σ}
    {seen input : Bytes} {body rest : Bytes} (h : cutAt step state seen input = some (body, rest)) :
    seen.reverse ++ input = body ++ 0x3E :: rest := by
  induction input generalizing state seen with
  | nil => cases h
  | cons b input ih =>
    simp only [cutAt] at h
    split at h
    · rename_i hb
      cases h
      rw [ends state b hb]
    · simpa using ih h

theorem ofCut_angle {good : Bytes → Bool} {make : Bytes → Lexeme} {σ : Type}
    {step : σ → UInt8 → Option σ} (ends : EndsAtAngle step) {state : σ} {input : Bytes}
    {first : Lexeme} {rest : Bytes}
    (h : Step.ofCut good make (cutAt step state [] input) = .lexeme first rest) :
    ∃ body, first = make body ∧ input = body ++ 0x3E :: rest := by
  unfold Step.ofCut at h
  split at h
  · cases h
  · rename_i body tail hcut
    split at h
    · cases h
      exact ⟨body, rfl, cutAt_angle ends hcut⟩
    · cases h

theorem tagLexeme_source (body : Bytes) : (tagLexeme body).source = 0x3C :: body ++ [0x3E] := by
  unfold tagLexeme
  split
  · rename_i hlast
    have hbody : body.dropLast ++ [0x2F] = body := by
      obtain ⟨ys, rfl⟩ := List.getLast?_eq_some_iff.mp hlast
      simp
    calc (Lexeme.emptyTag body.dropLast).source
        = 0x3C :: (body.dropLast ++ [0x2F]) ++ [0x3E] := by simp [Lexeme.source]
      _ = 0x3C :: body ++ [0x3E] := by rw [hbody]
  · rfl

theorem markup_source {input : Bytes} {first : Lexeme} {rest : Bytes}
    (h : markup input = .lexeme first rest) : first.source ++ rest = 0x3C :: input := by
  unfold markup at h
  split at h
  · cases h
  · split at h
    · obtain ⟨body, rfl, hi⟩ := ofCut_angle cdataStep_endsAtAngle h
      rw [hi]
      simp [Lexeme.source]
    · obtain ⟨body, rfl, hi⟩ := ofCut_angle commentStep_endsAtAngle h
      rw [hi]
      simp [Lexeme.source]
    · obtain ⟨body, rfl, hi⟩ := ofCut_angle doctypeStep_endsAtAngle h
      rw [hi]
      simp [Lexeme.source]
    · obtain ⟨body, rfl, hi⟩ := ofCut_angle doctypeStep_endsAtAngle h
      rw [hi]
      simp [Lexeme.source]
    · cases h
  · obtain ⟨body, rfl, hi⟩ := ofCut_angle instructionStep_endsAtAngle h
    rw [hi]
    simp [Lexeme.source]
  · obtain ⟨body, rfl, hi⟩ := ofCut_angle tagStep_endsAtAngle h
    rw [hi]
    simp [Lexeme.source]
  · obtain ⟨body, rfl, hi⟩ := ofCut_angle tagStep_endsAtAngle h
    rw [hi, tagLexeme_source]
    simp

theorem reference_source {input : Bytes} {first : Lexeme} {rest : Bytes}
    (h : reference input = .lexeme first rest) : first.source ++ rest = 0x26 :: input := by
  unfold reference at h
  simp only at h
  split at h
  · rename_i after heq
    cases h
    have split := List.takeWhile_append_dropWhile
      (p := fun b => isTextByte b && b != 0x3B) (l := input)
    rw [heq] at split
    simpa [Lexeme.source] using split
  · cases h

/-- A lexeme and what follows it are the octets they were read from. -/
theorem next_source {input : Bytes} {first : Lexeme} {rest : Bytes}
    (h : next input = .lexeme first rest) : first.source ++ rest = input := by
  unfold next at h
  split at h
  · cases h
  · exact markup_source h
  · exact reference_source h
  · cases h
    simp [Lexeme.source, List.takeWhile_append_dropWhile]

theorem ofCut_ne_finished (good : Bytes → Bool) (make : Bytes → Lexeme)
    (cut : Option (Bytes × Bytes)) : Step.ofCut good make cut ≠ .finished := by
  unfold Step.ofCut
  split
  · nofun
  · split <;> nofun

theorem markup_ne_finished (input : Bytes) : markup input ≠ .finished := by
  unfold markup
  split
  · nofun
  · split <;> first | exact ofCut_ne_finished _ _ _ | nofun
  all_goals exact ofCut_ne_finished _ _ _

theorem reference_ne_finished (input : Bytes) : reference input ≠ .finished := by
  unfold reference
  simp only
  split <;> nofun

theorem next_finished {input : Bytes} (h : next input = .finished) : input = [] := by
  unfold next at h
  split at h
  · rfl
  · exact absurd h (markup_ne_finished _)
  · exact absurd h (reference_ne_finished _)
  · cases h

/-! ## Reading to the end -/

theorem scan_nil : scan [] = ⟨[], true⟩ := by
  rw [scan]
  rfl

theorem scan_lexeme {input : Bytes} {first : Lexeme} {rest : Bytes}
    (h : next input = .lexeme first rest) : scan input = .cons first (scan rest) := by
  rw [scan]
  split
  · rename_i h'; rw [h] at h'; cases h'
  · rename_i h'; rw [h] at h'; cases h'
  · rename_i h'; rw [h] at h'; cases h'; rfl

/-- Octets that are read to their end as some lexemes. -/
def Reads (octets : Bytes) (lexemes : List Lexeme) : Prop := scan octets = ⟨lexemes, true⟩

instance (octets : Bytes) (lexemes : List Lexeme) : Decidable (Reads octets lexemes) :=
  decidable_of_iff ((scan octets).all = lexemes ∧ (scan octets).complete = true) <| by
    rw [Reads]
    constructor
    · rintro ⟨rfl, h⟩
      cases hs : scan octets
      rw [hs] at h
      cases h
      rfl
    · intro h
      rw [h]
      exact ⟨rfl, rfl⟩

theorem reads_nil : Reads [] [] := scan_nil

theorem reads_of_next {octets : Bytes} {first : Lexeme} {rest : Bytes} {lexemes : List Lexeme}
    (h : next octets = .lexeme first rest) (hrest : Reads rest lexemes) :
    Reads octets (first :: lexemes) := by
  rw [Reads, scan_lexeme h, hrest]
  rfl

namespace Reads

variable {octets more : Bytes} {first : Lexeme} {lexemes others : List Lexeme}

theorem eq_nil (h : Reads octets []) : octets = [] := by
  rw [Reads, scan] at h
  split at h
  · rename_i hn
    exact next_finished hn
  · cases h
  · cases h

theorem next_eq (h : Reads octets (first :: lexemes)) :
    ∃ rest, next octets = .lexeme first rest ∧ Reads rest lexemes := by
  rw [Reads, scan] at h
  split at h
  · cases h
  · cases h
  · rename_i other rest hn
    unfold Lexemes.cons at h
    cases hs : scan rest with
    | mk all complete =>
      rw [hs] at h
      cases h
      exact ⟨rest, hn, hs⟩

/-- The octets of some lexemes are those they were read from. -/
theorem source (h : Reads octets lexemes) : sources lexemes = octets := by
  induction lexemes generalizing octets with
  | nil => rw [h.eq_nil]; rfl
  | cons first lexemes ih =>
    obtain ⟨rest, hn, hr⟩ := h.next_eq
    calc sources (first :: lexemes) = first.source ++ sources lexemes := rfl
      _ = first.source ++ rest := by rw [ih hr]
      _ = octets := next_source hn

/-- Two parts one after the other. A text at the end of the first must end there. -/
theorem append (h : Reads octets lexemes) (hmore : Reads more others)
    (ends : (∃ last ∈ lexemes.getLast?, last.isText = true) → EndsText more) :
    Reads (octets ++ more) (lexemes ++ others) := by
  induction lexemes generalizing octets with
  | nil => rwa [h.eq_nil]
  | cons first lexemes ih =>
    obtain ⟨rest, hn, hr⟩ := h.next_eq
    refine reads_of_next (next_append hn ?_) (ih hr ?_)
    · rintro htext rfl
      cases lexemes with
      | nil => exact ends ⟨first, rfl, htext⟩
      | cons second lexemes =>
        obtain ⟨rest, hn, -⟩ := hr.next_eq
        cases hn
    · rintro ⟨last, hl, htext⟩
      exact ends ⟨last, by rw [List.getLast?_cons, hl]; rfl, htext⟩

/-- A tag, or other markup, before anything. -/
theorem cons (h : Reads octets [first]) (hmore : Reads more others)
    (ends : first.isText = false) : Reads (octets ++ more) (first :: others) := by
  refine h.append hmore ?_
  rintro ⟨last, hl, htext⟩
  cases hl
  exact absurd (ends.symm.trans htext) Bool.false_ne_true

end Reads

end WlanAdmin.Xml
