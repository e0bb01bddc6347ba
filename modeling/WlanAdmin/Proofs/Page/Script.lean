import WlanAdmin.Page.Script
import Mathlib.Data.List.Basic

/-!
# WlanAdmin.Proofs.Page.Script

Which value of a session variable is read off a script: the one of the leftmost place where the
whole declaration stands, its words, a value and the closing quote.

* `Match`, `Leftmost` : where a declaration stands in a text, and the first such place.
* `valueAt_eq_some_iff`, `value?_eq_some_iff` : what is read at a place, and what of a text.
* `value?_behind` : what follows a declaration has no say.
* `read_extracts` : all of it, for each of the three variables.
-/

namespace WlanAdmin
namespace Declaration

/-- The text of a declaration. -/
def spell (d : Declaration) (value : List Char) : List Char :=
  d.lead.toList ++ (value ++ [d.quote])

/-- A value that can stand between the quotes of a declaration. -/
structure Fits (d : Declaration) (value : List Char) : Prop where
  nonempty : value ≠ []
  unquoted : d.quote ∉ value

/-- A declaration of `value` that stands in `text`, behind `before`. -/
structure Match (d : Declaration) (text before value : List Char) : Prop where
  fits : d.Fits value
  stands : before ++ d.spell value <+: text

/-- The first place where a declaration stands. -/
structure Leftmost (d : Declaration) (text before value : List Char) : Prop
    extends d.Match text before value where
  first : ∀ {before' value'}, d.Match text before' value' → before.length ≤ before'.length

variable {d : Declaration} {text before value : List Char}

theorem takeWhile_value (h : d.quote ∉ value) (rest : List Char) :
    (value ++ d.quote :: rest).takeWhile (· != d.quote) = value := by
  have plain : ∀ c ∈ value, (c != d.quote) = true := by
    intro c hc
    simp only [bne_iff_ne, ne_eq]
    rintro rfl
    exact h hc
  rw [List.takeWhile_append_of_pos plain]
  simp

/-- What is read at a place is the value of the declaration that stands there. -/
theorem valueAt_eq_some_iff : d.valueAt text = some value ↔ d.Match text [] value := by
  constructor
  · intro h
    simp only [valueAt] at h
    split at h
    · rename_i lead
      obtain ⟨rest, rfl⟩ := List.isPrefixOf_iff_prefix.mp lead
      rw [List.drop_left] at h
      split at h
      · cases h
      · rename_i whole
        cases h
        simp only [Bool.or_eq_true, List.isEmpty_iff, beq_iff_eq, not_or] at whole
        have unquoted : d.quote ∉ rest.takeWhile (· != d.quote) := by
          intro hq
          simpa using List.all_eq_true.mp List.all_takeWhile _ hq
        refine ⟨⟨whole.1, unquoted⟩, ?_⟩
        -- the value ends before the text does, so it ends at a quote
        have split := List.takeWhile_append_dropWhile (p := (· != d.quote)) (l := rest)
        cases tail : rest.dropWhile (· != d.quote) with
        | nil =>
          rw [tail, List.append_nil] at split
          exact absurd (congrArg List.length split) whole.2
        | cons c more =>
          have hc : c = d.quote := by
            have := List.head?_dropWhile_not (· != d.quote) rest
            rw [tail] at this
            simpa using this
          rw [tail, hc] at split
          exact ⟨more, by simp [spell, split]⟩
    · cases h
  · rintro ⟨fits, more, rfl⟩
    have lead : d.lead.toList.isPrefixOf (d.lead.toList ++ (value ++ d.quote :: more)) = true :=
      List.isPrefixOf_iff_prefix.mpr (List.prefix_append _ _)
    have shape : [] ++ d.spell value ++ more = d.lead.toList ++ (value ++ d.quote :: more) := by
      simp [spell]
    have nonempty : value.isEmpty = false := by simpa using fits.nonempty
    have shorter : (value.length == (value ++ d.quote :: more).length) = false := by simp
    rw [shape]
    simp only [valueAt, lead, List.drop_left, takeWhile_value fits.unquoted, nonempty, shorter]
    simp

/-! ## The leftmost place -/

namespace Match

variable {c : Char} {before' value' : List Char}

theorem cons (h : d.Match text before value) : d.Match (c :: text) (c :: before) value :=
  ⟨h.fits, by simpa using h.stands⟩

/-- A declaration that does not stand at the very start stands behind the first character. -/
theorem tail (h : d.Match (c :: text) before value) (ne : before ≠ []) :
    ∃ rest, before = c :: rest ∧ d.Match text rest value := by
  obtain ⟨b, rest, rfl⟩ := List.exists_cons_of_ne_nil ne
  have stands := h.stands
  rw [List.cons_append, List.cons_prefix_cons] at stands
  obtain ⟨rfl, stands⟩ := stands
  exact ⟨rest, rfl, h.fits, stands⟩

theorem text_ne_nil (h : d.Match text before value) : text ≠ [] := by
  rintro rfl
  have := List.prefix_nil.mp h.stands
  simp [spell] at this

/-- One declaration stands at one place. -/
theorem unique (h : d.Match text before value) (h' : d.Match text before' value')
    (same : before.length = before'.length) : value = value' := by
  obtain ⟨rest, rfl⟩ := h.stands
  obtain ⟨rest', joined⟩ := h'.stands
  simp only [List.append_assoc] at joined
  obtain ⟨rfl, joined⟩ := List.append_inj joined same.symm
  simp only [spell, List.append_assoc, List.append_cancel_left_eq, List.singleton_append] at joined
  rw [← takeWhile_value h.fits.unquoted rest, ← joined, takeWhile_value h'.fits.unquoted]

end Match

theorem value?_leftmost (h : d.value? text = some value) :
    ∃ before, d.Leftmost text before value := by
  induction text with
  | nil => cases h
  | cons c rest ih =>
    simp only [value?] at h
    split at h
    · rename_i found
      cases h
      exact ⟨[], valueAt_eq_some_iff.mp found, fun _ => Nat.zero_le _⟩
    · rename_i nothing
      obtain ⟨before, found⟩ := ih h
      refine ⟨c :: before, found.toMatch.cons, ?_⟩
      intro before' value' other
      have ne : before' ≠ [] := by
        rintro rfl
        rw [valueAt_eq_some_iff.mpr other] at nothing
        cases nothing
      obtain ⟨rest', rfl, later⟩ := other.tail ne
      simpa using found.first later

theorem value?_isSome (h : d.Match text before value) : (d.value? text).isSome := by
  induction text generalizing before with
  | nil => exact absurd rfl h.text_ne_nil
  | cons c rest ih =>
    simp only [value?]
    split
    · rfl
    · rename_i nothing
      have ne : before ≠ [] := by
        rintro rfl
        rw [valueAt_eq_some_iff.mpr h] at nothing
        cases nothing
      obtain ⟨rest', rfl, later⟩ := h.tail ne
      exact ih later

/-- The value that is read is that of the first place. -/
theorem value?_eq_some_iff : d.value? text = some value ↔ ∃ before, d.Leftmost text before value := by
  constructor
  · exact value?_leftmost
  · rintro ⟨before, h⟩
    obtain ⟨value', found⟩ := Option.isSome_iff_exists.mp (value?_isSome h.toMatch)
    obtain ⟨before', h'⟩ := value?_leftmost found
    have same := Nat.le_antisymm (h.first h'.toMatch) (h'.first h.toMatch)
    rw [found, h.unique h'.toMatch same]

theorem value?_eq_none_iff : d.value? text = none ↔ ∀ before value, ¬ d.Match text before value := by
  constructor
  · intro h before value found
    have := value?_isSome found
    rw [h] at this
    cases this
  · intro h
    cases found : d.value? text with
    | none => rfl
    | some value =>
      obtain ⟨before, first⟩ := value?_leftmost found
      exact absurd first.toMatch (h before value)

/-! ## What follows a declaration -/

namespace Match

variable {value' : List Char}

theorem longer (h : d.Match text before value) (more : List Char) :
    d.Match (text ++ more) before value :=
  ⟨h.fits, h.stands.trans (List.prefix_append _ _)⟩

/-- A declaration that starts in a text ends in it, too, if its closing quote is looked for there. -/
theorem shorter {more : List Char} (h : d.Match (text ++ more) before value)
    (closes : d.quote ∈ text.drop (before ++ d.lead.toList).length) :
    d.Match text before value := by
  refine ⟨h.fits, ?_⟩
  rcases List.prefix_or_prefix_of_prefix h.stands (List.prefix_append text more) with
    inside | ⟨beyond, outside⟩
  · exact inside
  · -- the text ends inside the declaration: at its last quote, or inside its value
    rcases List.eq_nil_or_concat beyond with rfl | ⟨beyond, last, rfl⟩
    · rw [List.append_nil] at outside
      exact outside ▸ List.prefix_rfl
    · simp only [spell, List.concat_eq_append, ← List.append_assoc] at outside
      obtain ⟨outside, -⟩ := List.append_inj' outside rfl
      have dropped : text.drop (before ++ d.lead.toList).length <+: value := by
        have := congrArg (List.drop (before ++ d.lead.toList).length) outside
        rw [List.drop_append, List.drop_left] at this
        exact ⟨_, this⟩
      exact absurd (dropped.subset closes) h.fits.unquoted

end Match

/-- What stands behind a declaration has no say: either it declares, or something before it does. -/
theorem value?_behind (fits : d.Fits value) (before more : List Char) :
    d.value? (before ++ d.spell value ++ more) = d.value? (before ++ d.spell value) := by
  have here : d.Match (before ++ d.spell value) before value := ⟨fits, List.prefix_rfl⟩
  obtain ⟨found, read⟩ := Option.isSome_iff_exists.mp (value?_isSome (here.longer more))
  obtain ⟨place, first⟩ := value?_leftmost read
  have early := first.first (here.longer more)
  have closes : d.quote ∈
      (before ++ d.spell value).drop (place ++ d.lead.toList).length := by
    simp only [spell, ← List.append_assoc]
    rw [List.drop_append_of_le_length (by simp; omega)]
    simp
  have inside : d.Leftmost (before ++ d.spell value) place found :=
    ⟨first.toMatch.shorter closes, fun other => first.first (other.longer more)⟩
  rw [read, value?_eq_some_iff.mpr ⟨place, inside⟩]

end Declaration

/-! ## The variables of a script -/

/-- What is read of a script for one of its variables. -/
structure Declaration.Extracts (d : Declaration) (slot : ScriptVariables → Option String) :
    Prop where
  /-- The value is that of the leftmost place where the declaration stands. -/
  some_iff : ∀ script value, slot (.read script) = some value ↔
    ∃ before, d.Leftmost script.toList before value.toList
  none_iff : ∀ script, slot (.read script) = none ↔
    ∀ before value, ¬ d.Match script.toList before value
  fits : ∀ script value, slot (.read script) = some value → d.Fits value.toList
  /-- What stands before a declaration can hide it only by being one. -/
  unhidden : ∀ before value more, d.Fits value →
    (∀ before' value', d.Match (before ++ d.spell value ++ more) before' value' →
      before.length ≤ before'.length) →
    slot (.read (String.ofList (before ++ d.spell value ++ more))) = some (String.ofList value)
  /-- What stands behind a declaration has no say. -/
  settled : ∀ before value more more', d.Fits value →
    slot (.read (String.ofList (before ++ d.spell value ++ more))) =
      slot (.read (String.ofList (before ++ d.spell value ++ more')))

namespace Declaration

variable {d : Declaration} {slot : ScriptVariables → Option String}

theorem extracts
    (reads : ∀ script, slot (.read script) = (d.value? script.toList).map String.ofList) :
    d.Extracts slot := by
  have some_iff : ∀ script value, slot (.read script) = some value ↔
      ∃ before, d.Leftmost script.toList before value.toList := by
    intro script value
    rw [reads, ← value?_eq_some_iff, Option.map_eq_some_iff]
    constructor
    · rintro ⟨chars, found, rfl⟩
      rwa [String.toList_ofList]
    · intro found
      exact ⟨value.toList, found, String.ofList_toList⟩
  refine ⟨some_iff, ?_, ?_, ?_, ?_⟩
  · intro script
    rw [reads, Option.map_eq_none_iff, value?_eq_none_iff]
  · intro script value found
    obtain ⟨before, first⟩ := (some_iff script value).mp found
    exact first.fits
  · intro before value more fits first
    rw [some_iff, String.toList_ofList, String.toList_ofList]
    exact ⟨before, ⟨fits, List.prefix_append _ _⟩, fun other => first _ _ other⟩
  · intro before value more more' fits
    rw [reads, reads, String.toList_ofList, String.toList_ofList, value?_behind fits,
      value?_behind fits]

end Declaration

/-- Each variable of a script is read for itself, from the leftmost place where it is declared. -/
theorem ScriptVariables.read_extracts :
    Declaration.privilege.Extracts (·.privilege) ∧ Declaration.version.Extracts (·.version) ∧
      Declaration.token.Extracts (·.token) := by
  refine ⟨?_, ?_, ?_⟩ <;> exact Declaration.extracts fun _ => rfl

/-- A value may run over lines, and an empty one before it is passed over. -/
example : (ScriptVariables.read "var csfrToken = ''; var csfrToken = 'a\nb'").token =
    some "a\nb" := by decide +kernel

end WlanAdmin
