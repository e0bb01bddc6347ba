import WlanAdmin.Proofs.Text.Decimal

/-!
# WlanAdmin.Proofs.Text.Fault

Why a text is no integer of a range. Its characters are taken from the left, and the first one that
is no digit or takes the number out of the range decides.

* `GoesWrong`                   : where the digits behind a sign go wrong, and how.
* `readDigits_error_iff`        : that is where the reader stops.
* `IsRefused`                   : the texts that are no integer of a range, and why.
* `IntegerRange.read_error_iff` : these are refused, with the fault that they have.
-/

namespace WlanAdmin

theorem decimalDigit?_eq_none_iff {c : Char} : decimalDigit? c = none ↔ c.isDigit = false := by
  rw [← Bool.not_eq_true, Char.isDigit_iff_toNat, decimalDigit?]
  exact ite_eq_right_iff.trans (by simp; rfl)

/-! ## Digits -/

/-- Where the digits that are appended to a number go wrong: at a character that is no digit, while
the number is within the limit, or where it is beyond the limit, whatever follows. -/
inductive GoesWrong (limit : Nat) (overflow : IntegerFault) (n : Nat) :
    List Char → IntegerFault → Prop where
  | badDigit (front rest : List Char) {c : Char} {m : Nat} : readBase 10 n front = some m →
      m ≤ limit → c.isDigit = false → GoesWrong limit overflow n (front ++ c :: rest) .badDigit
  | beyond (front rest : List Char) {m : Nat} : readBase 10 n front = some m → limit < m →
      GoesWrong limit overflow n (front ++ rest) overflow

section Digits

variable {limit n digit : Nat} {overflow fault : IntegerFault} {c : Char} {rest : List Char}

theorem GoesWrong.ne_nil (within : n ≤ limit) : ¬ GoesWrong limit overflow n [] fault := by
  intro wrong
  generalize whole : ([] : List Char) = text at wrong
  cases wrong with
  | badDigit => simp at whole
  | beyond front rest read far =>
    obtain ⟨rfl, rfl⟩ := List.append_eq_nil_iff.mp whole.symm
    cases read
    omega

theorem goesWrong_other (within : n ≤ limit) (other : decimalDigit? c = none) :
    GoesWrong limit overflow n (c :: rest) fault ↔ fault = .badDigit := by
  have stuck (front : List Char) : readBase 10 n (c :: front) = none := by
    rw [readBase_ten_cons, other, Option.bind_none]
  constructor
  · intro wrong
    generalize whole : c :: rest = text at wrong
    cases wrong with
    | badDigit => rfl
    | beyond front _ read far =>
      cases front with
      | nil =>
        cases read
        omega
      | cons first front =>
        cases whole
        rw [stuck] at read
        cases read
  · rintro rfl
    exact .badDigit [] rest rfl within (decimalDigit?_eq_none_iff.mp other)

theorem goesWrong_digit (within : n ≤ limit) (found : decimalDigit? c = some digit) :
    GoesWrong limit overflow n (c :: rest) fault ↔
      GoesWrong limit overflow (10 * n + digit) rest fault := by
  have further (front : List Char) :
      readBase 10 n (c :: front) = readBase 10 (10 * n + digit) front := by
    rw [readBase_ten_cons, found, Option.bind_some]
  constructor
  · intro wrong
    generalize whole : c :: rest = text at wrong
    cases wrong with
    | badDigit front _ read le not_digit =>
      cases front with
      | nil =>
        cases whole
        rw [decimalDigit?_eq_none_iff.mpr not_digit] at found
        cases found
      | cons first front =>
        cases whole
        exact .badDigit front _ (further front ▸ read) le not_digit
    | beyond front _ read far =>
      cases front with
      | nil =>
        cases read
        omega
      | cons first front =>
        cases whole
        exact .beyond front _ (further front ▸ read) far
  · intro wrong
    cases wrong with
    | badDigit front behind read le not_digit =>
      exact .badDigit (c :: front) behind ((further front).trans read) le not_digit
    | beyond front behind read far =>
      exact .beyond (c :: front) behind ((further front).trans read) far

theorem goesWrong_beyond (far : limit < n) :
    GoesWrong limit overflow n rest fault ↔ fault = overflow := by
  constructor
  · intro wrong
    cases wrong with
    | badDigit _ _ read le =>
      have grown := le_of_readBase (by decide) read
      omega
    | beyond => rfl
  · rintro rfl
    exact .beyond [] rest rfl far

/-- The reader stops where the digits go wrong. -/
theorem readDigits_error_iff {digits : List Char} (within : n ≤ limit) :
    readDigits limit overflow n digits = .error fault ↔
      GoesWrong limit overflow n digits fault := by
  induction digits generalizing n with
  | nil => simp [readDigits, GoesWrong.ne_nil within]
  | cons c rest ih =>
    rw [readDigits]
    cases found : decimalDigit? c with
    | none =>
      rw [goesWrong_other within found]
      simp only [Except.error.injEq, eq_comm]
    | some digit =>
      rw [goesWrong_digit within found]
      simp only
      split
      · rename_i more
        exact ih more
      · rename_i more
        rw [goesWrong_beyond (Nat.lt_of_not_le more), Except.error.injEq, eq_comm]

theorem readMagnitude_error_iff {digits : List Char} :
    readMagnitude limit overflow digits = .error fault ↔
      digits = [] ∧ fault = .badDigit ∨ GoesWrong limit overflow 0 digits fault := by
  cases digits with
  | nil => simp [readMagnitude, GoesWrong.ne_nil (Nat.zero_le limit), eq_comm]
  | cons c rest =>
    rw [readMagnitude, readDigits_error_iff (Nat.zero_le limit)]
    · simp
    · intro none
      cases none

end Digits

/-! ## Texts -/

/-- No digits at all, or those of a number within the limit. -/
def Within (limit : Nat) (digits : List Char) : Prop :=
  digits = [] ∨ ∃ n, Numeral 10 digits n ∧ n ≤ limit

theorem within_iff {limit : Nat} {digits : List Char} :
    Within limit digits ↔ ∃ n, readBase 10 0 digits = some n ∧ n ≤ limit := by
  rw [Within]
  by_cases none : digits = []
  · simp [none, readBase]
  · have read (n : Nat) : readBase 10 0 digits = some n ↔ Numeral 10 digits n :=
      readBase_eq_some_iff (by decide) none
    simp only [none, false_or, read]

theorem numeral_of_beyond {limit n : Nat} {digits : List Char}
    (read : readBase 10 0 digits = some n) (far : limit < n) : Numeral 10 digits n := by
  refine (readBase_eq_some_iff (by decide) ?_).mp read
  rintro rfl
  cases read
  omega

/-- The texts that are no integer of a range, and why. Without any digit, and at the first character
that is none, the text is malformed, unless the digits before that have left the range. -/
inductive IsRefused (range : IntegerRange) : List Char → IntegerFault → Prop where
  | empty : IsRefused range [] .empty
  | bare {text : List Char} {sign : Sign} : text ≠ [] → Signed range text sign [] →
      IsRefused range text .badDigit
  | badDigit {text front rest : List Char} {c : Char} {sign : Sign} :
      Signed range text sign (front ++ c :: rest) → Within (sign.limit range) front →
      c.isDigit = false → IsRefused range text .badDigit
  | beyond {text front rest : List Char} {n : Nat} {sign : Sign} :
      Signed range text sign (front ++ rest) → Numeral 10 front n → sign.limit range < n →
      IsRefused range text sign.overflow

theorem Signed.ne_nil {range : IntegerRange} {text digits : List Char} {sign : Sign}
    (h : Signed range text sign digits) (nonempty : digits ≠ []) : text ≠ [] := by
  cases h with
  | plus | minus => exact List.cons_ne_nil _ _
  | plain => exact nonempty

theorem Signed.refused_iff {range : IntegerRange} {text digits : List Char} {sign : Sign}
    (h : Signed range text sign digits) (nonempty : text ≠ []) {fault : IntegerFault} :
    range.read (String.ofList text) = .error fault ↔
      digits = [] ∧ fault = .badDigit ∨
        GoesWrong (sign.limit range) sign.overflow 0 digits fault := by
  rw [h.read_eq nonempty, map_eq_error_iff, readMagnitude_error_iff]

/-- What is refused as an integer of a range, and why. -/
theorem IntegerRange.read_error_iff {range : IntegerRange} {text : List Char}
    {fault : IntegerFault} :
    range.read (String.ofList text) = .error fault ↔ IsRefused range text fault := by
  constructor
  · intro refused
    by_cases nonempty : text = []
    · subst nonempty
      cases refused
      exact .empty
    · obtain ⟨sign, digits, signed⟩ := exists_signed range text
      rcases (signed.refused_iff nonempty).mp refused with ⟨rfl, rfl⟩ | wrong
      · exact .bare nonempty signed
      · cases wrong with
        | badDigit front rest read le not_digit =>
          exact .badDigit signed (within_iff.mpr ⟨_, read, le⟩) not_digit
        | beyond front rest read far => exact .beyond signed (numeral_of_beyond read far) far
  · intro refused
    cases refused with
    | empty => rfl
    | bare nonempty signed => exact (signed.refused_iff nonempty).mpr (.inl ⟨rfl, rfl⟩)
    | badDigit signed within not_digit =>
      obtain ⟨n, read, le⟩ := within_iff.mp within
      exact (signed.refused_iff (signed.ne_nil (by simp))).mpr
        (.inr (.badDigit _ _ read le not_digit))
    | beyond signed numeral far =>
      have nonempty := signed.ne_nil (List.append_ne_nil_of_left_ne_nil numeral.ne_nil _)
      exact (signed.refused_iff nonempty).mpr
        (.inr (.beyond _ _ (numeral.readBase_eq (by decide)) far))

/-- Whether a bad character or the size of the number is reported depends on which is met first. -/
example : IntegerRange.unsigned32.read "+004294967295x" = .error .badDigit ∧
    IntegerRange.unsigned32.read "+004294967296x" = .error .tooLarge := by
  decide +kernel

end WlanAdmin
