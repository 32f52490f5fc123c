import BoundaryLog.Proofs.Texts

/-! # Which texts are read as counts

Trimming finds the text that stands between outer blanks.  A count is read from exactly the
numerals, a plus sign or nothing with at least one digit behind it, whose value fits; reading goes
digit by digit and the value only grows, so nothing that fits is given up on the way. -/
set_option autoImplicit false
namespace BoundaryLog.Text

/-! ## Blanks around a text -/

theorem eq_blanks_append_trimStart (cs : List Char) :
    ∃ front, (∀ c ∈ front, isBlank c = true) ∧ cs = front ++ trimStart cs :=
  ⟨cs.takeWhile isBlank, fun _ hc => List.all_eq_true.1 List.all_takeWhile _ hc,
    List.takeWhile_append_dropWhile.symm⟩

theorem eq_trimEnd_append_blanks (cs : List Char) :
    ∃ back, (∀ c ∈ back, isBlank c = true) ∧ cs = trimEnd cs ++ back := by
  obtain ⟨front, blank, whole⟩ := eq_blanks_append_trimStart cs.reverse
  refine ⟨front.reverse, fun c hc => blank c (List.mem_reverse.1 hc), ?_⟩
  rw [trimEnd, ← List.reverse_append, ← whole, List.reverse_reverse]

theorem trimStart_blanks_append (front cs : List Char) (hFront : ∀ c ∈ front, isBlank c = true)
    (h : ∀ c ∈ cs.head?, isBlank c = false) : trimStart (front ++ cs) = cs :=
  (span_append front cs hFront h).2

theorem trimEnd_append_blanks (cs back : List Char) (hBack : ∀ c ∈ back, isBlank c = true)
    (h : ∀ c ∈ cs.getLast?, isBlank c = false) : trimEnd (cs ++ back) = cs := by
  have reversed : trimStart (back.reverse ++ cs.reverse) = cs.reverse := by
    apply trimStart_blanks_append
    · intro c hc
      exact hBack c (List.mem_reverse.1 hc)
    · intro c hc
      rw [List.head?_reverse] at hc
      exact h c hc
  rw [trimEnd, List.reverse_append, reversed, List.reverse_reverse]

/-- Trimming gives the text that stands between the blanks. -/
theorem trim_eq_iff (cs core : List Char) (hNonempty : core ≠ []) (hCore : IsTrimmed core) :
    trim cs = core ↔ ∃ front back, (∀ c ∈ front, isBlank c = true) ∧
      (∀ c ∈ back, isBlank c = true) ∧ cs = front ++ core ++ back := by
  constructor
  · rintro rfl
    obtain ⟨front, blankFront, whole⟩ := eq_blanks_append_trimStart cs
    obtain ⟨back, blankBack, inner⟩ := eq_trimEnd_append_blanks (trimStart cs)
    refine ⟨front, back, blankFront, blankBack, ?_⟩
    rw [List.append_assoc, trim, ← inner]
    exact whole
  · rintro ⟨front, back, blankFront, blankBack, rfl⟩
    have head : ∀ c ∈ (core ++ back).head?, isBlank c = false := by
      obtain ⟨c, rest, rfl⟩ := List.exists_cons_of_ne_nil hNonempty
      exact hCore.1
    rw [List.append_assoc, trim, trimStart_blanks_append front _ blankFront head]
    exact trimEnd_append_blanks core back blankBack hCore.2

/-! ## Numerals -/

/-- The digits of a number, with or without a plus sign before them. -/
def Numeral (cs : List Char) (n : Nat) : Prop :=
  ∃ digits, (cs = digits ∨ cs = '+' :: digits) ∧ digits ≠ [] ∧
    (∀ c ∈ digits, c.isDigit = true) ∧ Nat.ofDigitChars 10 digits 0 = n

theorem ofDigitChars_of_readDigits (ds : List Char) :
    ∀ (m n : Count), readDigits m ds = .ok n → Nat.ofDigitChars 10 ds m.value = n.value := by
  induction ds with
  | nil =>
      intro m n h
      cases h
      exact Nat.ofDigitChars_nil
  | cons c cs ih =>
      intro m n h
      rw [readDigits] at h
      split at h
      · split at h
        · rw [Nat.ofDigitChars_cons]
          exact ih _ n h
        · cases h
      · cases h

theorem readDigits_eq_ok_iff (ds : List Char) (m n : Count) :
    readDigits m ds = .ok n ↔
      (∀ c ∈ ds, c.isDigit = true) ∧ Nat.ofDigitChars 10 ds m.value = n.value := by
  constructor
  · intro h
    exact ⟨isDigit_of_readDigits ds m n h, ofDigitChars_of_readDigits ds m n h⟩
  · rintro ⟨digits, value⟩
    have fits : Nat.ofDigitChars 10 ds m.value < countBound := by
      rw [value]
      exact n.bounded
    rw [readDigits_eq ds m digits fits]
    simp only [value]

theorem readCount_of_ne_plus (c : Char) (cs : List Char) (h : c ≠ '+') :
    readCount (c :: cs) = readDigits .zero (c :: cs) := by
  rw [readCount.eq_def]
  split
  · next hNil => cases hNil
  · next hPlus => exact absurd (List.cons.inj hPlus).1 h
  · next hPlus => exact absurd (List.cons.inj hPlus).1 h
  · rfl

/-- A count is read from the numerals of its value and from no other text. -/
theorem readCount_eq_ok_iff (cs : List Char) (n : Count) :
    readCount cs = .ok n ↔ Numeral cs n.value := by
  have plain : ∀ ds, ds ≠ [] → readDigits .zero ds = .ok n →
      ds ≠ [] ∧ (∀ c ∈ ds, c.isDigit = true) ∧ Nat.ofDigitChars 10 ds 0 = n.value := by
    intro ds hNonempty hRead
    exact ⟨hNonempty, (readDigits_eq_ok_iff ds .zero n).1 hRead⟩
  constructor
  · intro h
    cases cs with
    | nil => cases h
    | cons c cs =>
        by_cases hPlus : c = '+'
        · subst hPlus
          cases cs with
          | nil => cases h
          | cons d ds => exact ⟨d :: ds, Or.inr rfl, plain _ (List.cons_ne_nil d ds) h⟩
        · rw [readCount_of_ne_plus c cs hPlus] at h
          exact ⟨c :: cs, Or.inl rfl, plain _ (List.cons_ne_nil c cs) h⟩
  · rintro ⟨digits, hText, hNonempty, hDigits, hValue⟩
    have read : readDigits .zero digits = .ok n := (readDigits_eq_ok_iff _ _ _).2 ⟨hDigits, hValue⟩
    obtain ⟨d, ds, rfl⟩ := List.exists_cons_of_ne_nil hNonempty
    rcases hText with rfl | rfl
    · have notPlus : d ≠ '+' := by
        intro hPlus
        have isDigit := hDigits d List.mem_cons_self
        rw [hPlus] at isDigit
        exact absurd isDigit (by decide)
      rw [readCount_of_ne_plus d ds notPlus]
      exact read
    · exact read

/-- A numeral has no blanks at its ends. -/
theorem Numeral.isTrimmed {cs : List Char} {n : Nat} (h : Numeral cs n) :
    cs ≠ [] ∧ IsTrimmed cs := by
  obtain ⟨digits, hText, hNonempty, hDigits, -⟩ := h
  have solid : ∀ c ∈ cs, isBlank c = false := by
    intro c hc
    have plusOrDigit : c = '+' ∨ c.isDigit = true := by
      rcases hText with rfl | rfl
      · exact Or.inr (hDigits c hc)
      · exact (List.mem_cons.1 hc).imp_right (hDigits c)
    rcases plusOrDigit with rfl | isDigit
    · decide
    · cases hBlank : isBlank c with
      | false => rfl
      | true =>
          rw [not_isDigit_of_isBlank c hBlank] at isDigit
          cases isDigit
  refine ⟨?_, fun c hc => solid c (List.mem_of_mem_head? hc),
    fun c hc => solid c (List.mem_of_getLast? hc)⟩
  rcases hText with rfl | rfl
  · exact hNonempty
  · exact List.cons_ne_nil _ _

/-- After trimming a count is read from the numerals with blanks around them. -/
theorem readCount_trim_eq_ok_iff (cs : List Char) (n : Count) :
    readCount (trim cs) = .ok n ↔
      ∃ front core back, cs = front ++ core ++ back ∧ (∀ c ∈ front, isBlank c = true) ∧
        (∀ c ∈ back, isBlank c = true) ∧ Numeral core n.value := by
  rw [readCount_eq_ok_iff]
  constructor
  · intro hNumeral
    obtain ⟨nonempty, trimmed⟩ := hNumeral.isTrimmed
    obtain ⟨front, back, blankFront, blankBack, whole⟩ := (trim_eq_iff cs _ nonempty trimmed).1 rfl
    exact ⟨front, trim cs, back, whole, blankFront, blankBack, hNumeral⟩
  · rintro ⟨front, core, back, whole, blankFront, blankBack, hNumeral⟩
    obtain ⟨nonempty, trimmed⟩ := hNumeral.isTrimmed
    rw [(trim_eq_iff cs core nonempty trimmed).2 ⟨front, back, blankFront, blankBack, whole⟩]
    exact hNumeral

end BoundaryLog.Text
