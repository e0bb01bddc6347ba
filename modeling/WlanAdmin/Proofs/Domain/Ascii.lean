import WlanAdmin.Domain.Ascii
import WlanAdmin.Proofs.Domain.Composition
import WlanAdmin.Proofs.Domain.Punycode
import WlanAdmin.Proofs.Text.Digits

/-!
# WlanAdmin.Proofs.Domain.Ascii

The ASCII form of a domain name is its own ASCII form.

* `StandingLabel` : what is known of the labels of a name that is accepted.
* `readLabel_writeLabel` : such a label is read back from its ASCII form.
* `toAscii_toAscii` : the ASCII form of a name is its own.
* `isNameChar_of_mem_toAscii` : the characters that ASCII forms have.
-/

namespace WlanAdmin.Domain

theorem isAscii_iff {text : List Char} : isAscii text = true ↔ ∀ c ∈ text, c.toNat < 0x80 := by
  simp [isAscii]

/-! ## Case -/

theorem isCapital_iff {c : Char} : IsCapital c ↔ c.val ≥ 'A'.val ∧ c.val ≤ 'Z'.val := by
  rw [IsCapital, IsCapitalCode, ge_iff_le, UInt32.le_iff_toNat_le, UInt32.le_iff_toNat_le]
  rfl

theorem toLower_of_small {c : Char} (h : ¬ IsCapital c) : c.toLower = c :=
  dif_neg fun capital => h (isCapital_iff.mpr capital)

theorem isCapital_ascii {c : Char} (h : IsCapital c) : c.toNat < 0x80 :=
  Nat.lt_of_le_of_lt h.2 (by decide)

/-- What the lower case of an ASCII character keeps. -/
theorem toLower_ascii : ∀ c : Char, c.toNat < 0x80 →
    c.toLower.toNat < 0x80 ∧ ¬ IsCapital c.toLower ∧ isForbidden c.toLower = isForbidden c ∧
      (c.toLower = '.' ↔ c = '.') :=
  forall_ascii (by decide)

theorem not_isCapital_toLower (c : Char) : ¬ IsCapital c.toLower := by
  by_cases capital : IsCapital c
  · exact (toLower_ascii c (isCapital_ascii capital)).2.1
  · rwa [toLower_of_small capital]

theorem toLower_eq_dot (c : Char) : c.toLower = '.' ↔ c = '.' := by
  by_cases capital : IsCapital c
  · exact (toLower_ascii c (isCapital_ascii capital)).2.2.2
  · rw [toLower_of_small capital]

theorem map_toLower_of_small {text : List Char} (h : ∀ c ∈ text, ¬ IsCapital c) :
    text.map Char.toLower = text :=
  (List.map_congr_left fun c mem => toLower_of_small (h c mem)).trans (List.map_id _)

theorem map_toLower_toLower (text : List Char) :
    (text.map Char.toLower).map Char.toLower = text.map Char.toLower := by
  refine map_toLower_of_small fun c mem => ?_
  obtain ⟨d, -, rfl⟩ := List.mem_map.mp mem
  exact not_isCapital_toLower d

/-! ## Labels -/

/-- A label of a name that is accepted. -/
structure StandingLabel (label : List Char) : Prop where
  no_dot : '.' ∉ label
  no_capital : ∀ c ∈ label, ¬ IsCapital c
  not_encoded : isEncoded label = false
  sound : isAscii label = false → isSound label = true ∧ composed label = label

/-- The labels that are read of pieces of a composed name stand. -/
theorem standing_of_readLabel {piece label : List Char} (no_dot : '.' ∉ piece)
    (no_capital : ∀ c ∈ piece, ¬ IsCapital c) (is_composed : composed piece = piece)
    (h : readLabel piece = some label) : StandingLabel label := by
  rw [readLabel] at h
  split at h
  · obtain ⟨decoded, sound⟩ := Option.filter_eq_some_iff.mp h
    obtain ⟨decoded, holds⟩ := Option.filter_eq_some_iff.mp decoded
    simp only [Bool.and_eq_true, Bool.not_eq_true', beq_iff_eq] at holds
    obtain ⟨⟨not_ascii, whole⟩, not_encoded⟩ := holds
    have inside : ∀ c ∈ label, c.toNat < 0x80 → c ∈ piece := fun c mem ascii =>
      List.mem_of_mem_drop (decodePunycode_ascii decoded c mem ascii)
    exact {
      no_dot := fun mem => no_dot (inside '.' mem (by decide))
      no_capital := fun c mem capital =>
        no_capital c (inside c mem (isCapital_ascii capital)) capital
      not_encoded := not_encoded
      sound := fun _ => ⟨sound, whole⟩ }
  · rename_i not_encoded
    have not_encoded := Bool.eq_false_iff.mpr not_encoded
    split at h
    · rename_i ascii
      cases h
      exact ⟨no_dot, no_capital, not_encoded, fun not_ascii => by
        rw [ascii] at not_ascii; cases not_ascii⟩
    · split at h
      · rename_i sound
        cases h
        exact ⟨no_dot, no_capital, not_encoded, fun _ => ⟨sound, is_composed⟩⟩
      · cases h

/-- The characters of ASCII forms. -/
structure IsNameChar (c : Char) : Prop where
  ascii : c.toNat < 0x80
  small : ¬ IsCapital c
  allowed : isForbidden c = false

instance (c : Char) : Decidable (IsNameChar c) :=
  decidable_of_iff (c.toNat < 0x80 ∧ ¬ IsCapital c ∧ isForbidden c = false)
    ⟨fun ⟨a, b, c⟩ => ⟨a, b, c⟩, fun ⟨a, b, c⟩ => ⟨a, b, c⟩⟩

theorem IsPunyDigit.isNameChar {c : Char} (h : IsPunyDigit c) : IsNameChar c ∧ c ≠ '.' := by
  have ascii : c.toNat < 0x80 := by
    rcases h with ⟨-, le⟩ | ⟨-, le⟩ <;>
      exact Nat.lt_of_le_of_lt (UInt32.le_iff_toNat_le.mp le) (by decide)
  exact forall_ascii (P := fun c => IsPunyDigit c → IsNameChar c ∧ c ≠ '.') (by decide) c ascii h

/-- The ASCII form of a label has no dots, and characters of ASCII forms where the label has none
that are forbidden. -/
theorem isNameChar_of_mem_writeLabel {label : List Char} (h : StandingLabel label)
    (allowed : label.any isForbidden = false) :
    ∀ c ∈ writeLabel label, IsNameChar c ∧ c ≠ '.' := by
  have own : ∀ c ∈ label, c.toNat < 0x80 → IsNameChar c ∧ c ≠ '.' := fun c mem ascii =>
    ⟨⟨ascii, h.no_capital c mem, by simpa using List.any_eq_false.mp allowed c mem⟩,
      fun dot => h.no_dot (dot ▸ mem)⟩
  intro c mem
  rw [writeLabel] at mem
  split at mem
  · rename_i ascii
    exact own c mem (isAscii_iff.mp ascii c mem)
  · rcases List.mem_append.mp mem with mem | mem
    · have lead : ∀ c ∈ encodedLead, IsNameChar c ∧ c ≠ '.' := forall_mem_of_all (by decide)
      exact lead c mem
    · rcases encodePunycode_mem mem with ⟨mem, ascii⟩ | digit | rfl
      · exact own c mem ascii
      · exact digit.isNameChar
      · decide

theorem isEncoded_lead (digits : List Char) : isEncoded (encodedLead ++ digits) = true := by
  have small : ∀ c ∈ encodedLead, ¬ IsCapital c := forall_mem_of_all (by decide)
  rw [isEncoded, List.map_append, map_toLower_of_small small, List.isPrefixOf_iff_prefix]
  exact List.prefix_append ..

/-- A label is read back from its ASCII form. -/
theorem readLabel_writeLabel {label : List Char} (h : StandingLabel label) :
    readLabel (writeLabel label) = some label := by
  rw [writeLabel]
  split
  · rename_i ascii
    rw [readLabel, h.not_encoded, ascii]
    rfl
  · rename_i not_ascii
    have not_ascii := Bool.eq_false_iff.mpr not_ascii
    obtain ⟨sound, whole⟩ := h.sound not_ascii
    rw [readLabel, isEncoded_lead, if_pos rfl, decodeLabel, List.drop_left,
      decodePunycode_encodePunycode]
    simp [not_ascii, whole, h.not_encoded, sound]

/-! ## Names -/

/-- The labels of a name stand. -/
theorem standing_of_readLabels {name : List Char} {labels : List (List Char)}
    (h : readLabels name = some labels) :
    labels ≠ [] ∧ ∀ label ∈ labels, StandingLabel label := by
  rw [readLabels] at h
  split at h
  · cases h
  · rename_i mapped of_name
    obtain ⟨length, each⟩ := exists_of_mapM h
    have no_capital : ∀ c ∈ composed mapped.flatten, ¬ IsCapital c := by
      intro c mem
      rcases mem_composed c mem with mem | made
      · obtain ⟨chars, inside, mem⟩ := List.mem_flatten.mp mem
        obtain ⟨d, -, becomes⟩ := (exists_of_mapM of_name).2 chars inside
        exact mapChar_no_capital becomes c mem
      · exact made.2
    refine ⟨fun empty => ?_, fun label mem => ?_⟩
    · rw [empty, List.length_nil, eq_comm, List.length_eq_zero_iff] at length
      exact List.splitOn_ne_nil _ _ length
    · obtain ⟨piece, inside, read⟩ := each label mem
      obtain ⟨no_dot, of_name⟩ := of_mem_splitOn inside
      rw [composed_splitOn] at inside
      obtain ⟨part, -, rfl⟩ := List.mem_map.mp inside
      exact standing_of_readLabel no_dot (fun c mem => no_capital c (of_name c mem))
        (composed_composed part) read

/-- What is checked of the labels of a name together. -/
structure StandingName (labels : List (List Char)) : Prop where
  nonempty : labels ≠ []
  standing : ∀ label ∈ labels, StandingLabel label
  allowed : labels.any (·.any isForbidden) = false
  directed : (labels.any (·.any runsLeft) && !labels.all keepsDirection) = false

/-- The text of labels in their ASCII forms. -/
def writeLabels (labels : List (List Char)) : List Char := ['.'].intercalate (labels.map writeLabel)

theorem StandingName.isNameChar {labels : List (List Char)} (h : StandingName labels) :
    ∀ label ∈ labels, ∀ c ∈ writeLabel label, IsNameChar c ∧ c ≠ '.' := fun label mem =>
  isNameChar_of_mem_writeLabel (h.standing label mem) (by
    simpa using List.any_eq_false.mp h.allowed label mem)

theorem splitOn_writeLabels {labels : List (List Char)} (h : StandingName labels) :
    (writeLabels labels).splitOn '.' = labels.map writeLabel := by
  refine List.splitOn_intercalate '.' (fun piece mem dot => ?_) (by simpa using h.nonempty)
  obtain ⟨label, inside, rfl⟩ := List.mem_map.mp mem
  exact (h.isNameChar label inside '.' dot).2 rfl

/-- A name is in ASCII already, or it has labels that stand. -/
theorem toAscii_cases {name text : List Char} (h : toAscii name = some text) :
    (text = name.map Char.toLower ∧ isAscii name = true ∧
      (name.splitOn '.').any isEncoded = false ∧ name.any isForbidden = false) ∨
    ∃ labels, StandingName labels ∧ text = writeLabels labels := by
  rw [toAscii] at h
  split at h
  · rename_i plain
    simp only [Bool.and_eq_true, Bool.not_eq_true'] at plain
    split at h
    · cases h
    · rename_i allowed
      exact .inl ⟨(Option.some.inj h).symm, plain.1, plain.2, Bool.eq_false_iff.mpr allowed⟩
  · split at h
    · cases h
    · rename_i labels read
      obtain ⟨nonempty, standing⟩ := standing_of_readLabels read
      split at h
      · cases h
      · rename_i allowed
        split at h
        · cases h
        · rename_i directed
          exact .inr ⟨labels, ⟨nonempty, standing, Bool.eq_false_iff.mpr allowed,
            Bool.eq_false_iff.mpr directed⟩, (Option.some.inj h).symm⟩

theorem isNameChar_of_mem_writeLabels {labels : List (List Char)} (h : StandingName labels) :
    ∀ c ∈ writeLabels labels, IsNameChar c := by
  intro c mem
  rcases mem_intercalate mem with rfl | ⟨piece, inside, mem⟩
  · decide
  · obtain ⟨label, standing, rfl⟩ := List.mem_map.mp inside
    exact (h.isNameChar label standing c mem).1

/-- The characters that ASCII forms have. -/
theorem isNameChar_of_mem_toAscii {name text : List Char} (h : toAscii name = some text) :
    ∀ c ∈ text, IsNameChar c := by
  rcases toAscii_cases h with ⟨rfl, ascii, -, allowed⟩ | ⟨labels, stands, rfl⟩
  · intro c mem
    obtain ⟨d, inside, rfl⟩ := List.mem_map.mp mem
    obtain ⟨lower_ascii, small, same, -⟩ := toLower_ascii d (isAscii_iff.mp ascii d inside)
    exact ⟨lower_ascii, small, same.trans (by simpa using List.any_eq_false.mp allowed d inside)⟩
  · exact isNameChar_of_mem_writeLabels stands

/-- Labels that stand are read back from their ASCII forms. -/
theorem readLabels_writeLabels {labels : List (List Char)} (h : StandingName labels) :
    readLabels (writeLabels labels) = some labels := by
  have chars := isNameChar_of_mem_writeLabels h
  have mapped : (writeLabels labels).mapM mapChar = some ((writeLabels labels).map fun c => [c]) :=
    mapM_some fun c mem => mapChar_ascii (chars c mem).ascii (chars c mem).small
  have whole : ((writeLabels labels).map fun c => [c]).flatten = writeLabels labels := by
    rw [← List.flatMap_def]
    exact List.flatMap_singleton' _
  have read : (labels.map writeLabel).mapM readLabel = some labels := by
    rw [List.mapM_map]
    exact (mapM_some fun label mem => readLabel_writeLabel (h.standing label mem)).trans
      (congrArg some (List.map_id labels))
  rw [readLabels, mapped]
  simp only [whole]
  rw [composed_ascii fun c mem => (chars c mem).ascii, splitOn_writeLabels h, read]

/-- The ASCII form of labels that stand is its own. -/
theorem toAscii_writeLabels {labels : List (List Char)} (h : StandingName labels) :
    toAscii (writeLabels labels) = some (writeLabels labels) := by
  have chars := isNameChar_of_mem_writeLabels h
  rw [toAscii]
  split
  · rw [if_neg (by simpa using fun c mem => (chars c mem).allowed),
      map_toLower_of_small fun c mem => (chars c mem).small]
  · rw [readLabels_writeLabels h]
    simp only [h.allowed, h.directed]
    rfl

/-- The ASCII form of a name is its own. -/
theorem toAscii_toAscii {name text : List Char} (h : toAscii name = some text) :
    toAscii text = some text := by
  rcases toAscii_cases h with ⟨rfl, ascii, not_encoded, -⟩ | ⟨labels, stands, rfl⟩
  · have chars := isNameChar_of_mem_toAscii h
    have still : (((name.map Char.toLower).splitOn '.').any isEncoded) = false := by
      have same : isEncoded ∘ List.map Char.toLower = isEncoded := by
        funext label
        rw [Function.comp, isEncoded, isEncoded, map_toLower_toLower]
      rw [splitOn_map toLower_eq_dot, List.any_map, same, not_encoded]
    have allowed : (name.map Char.toLower).any isForbidden = false :=
      List.any_eq_false.mpr fun c mem => by rw [(chars c mem).allowed]; exact Bool.false_ne_true
    rw [toAscii, still, isAscii_iff.mpr fun c mem => (chars c mem).ascii, allowed,
      map_toLower_toLower]
    rfl
  · exact toAscii_writeLabels stands

end WlanAdmin.Domain
