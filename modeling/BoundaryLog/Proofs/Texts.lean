import BoundaryLog.Text.Blank
import BoundaryLog.Text.Cut
import BoundaryLog.Text.Numeral

/-! # Written counts, last occurrences and trimmed texts

A count that is written is read back, and a text that goes on after the digits with anything else
is no count.  The last occurrence of a piece is where the piece was put, unless it occurs again
from inside itself on.  Trimming takes off what is put around a text without outer blanks. -/
set_option autoImplicit false
namespace BoundaryLog.Text

/-! ## Classes of characters -/

/-- What a class of characters takes of a text ends where the class does. -/
theorem span_append {p : Char → Bool} (front rest : List Char) (hFront : ∀ c ∈ front, p c = true)
    (hRest : ∀ c ∈ rest.head?, p c = false) :
    (front ++ rest).takeWhile p = front ∧ (front ++ rest).dropWhile p = rest := by
  have stop : rest.takeWhile p = [] ∧ rest.dropWhile p = rest := by
    cases rest with
    | nil => exact ⟨rfl, rfl⟩
    | cons c rest => simp [hRest c rfl]
  rw [List.takeWhile_append_of_pos hFront, List.dropWhile_append_of_pos hFront, stop.1, stop.2]
  exact ⟨List.append_nil front, rfl⟩

/-! ## Counts -/

theorem toList_countText (n : Count) : n.text.toList = Nat.toDigits 10 n.value :=
  Nat.toList_repr

theorem isDigit_of_mem_countText (n : Count) (c : Char) (h : c ∈ n.text.toList) :
    c.isDigit = true := by
  rw [toList_countText] at h
  exact Nat.isDigit_of_mem_toDigits (by decide) (by decide) h

theorem countText_ne_nil (n : Count) : n.text.toList ≠ [] := by
  rw [toList_countText]
  exact Nat.toDigits_ne_nil

/-- The number read so far only grows, so digits whose value is a count are read without a
fault. -/
theorem readDigits_eq (ds : List Char) :
    ∀ (m : Count), (∀ c ∈ ds, c.isDigit = true) →
      ∀ (h : Nat.ofDigitChars 10 ds m.value < countBound),
        readDigits m ds = .ok ⟨Nat.ofDigitChars 10 ds m.value, h⟩ := by
  induction ds with
  | nil => intro m _ _; simp [readDigits]
  | cons c cs ih =>
      intro m hDigits h
      have hc : c.isDigit = true := hDigits c (List.mem_cons_self ..)
      have step : Nat.ofDigitChars 10 (c :: cs) m.value =
          Nat.ofDigitChars 10 cs (10 * m.value + digitValue c) := Nat.ofDigitChars_cons
      have grows : 10 * m.value + digitValue c ≤
          Nat.ofDigitChars 10 cs (10 * m.value + digitValue c) := by
        rw [Nat.ofDigitChars_eq_ofDigitChars_zero]
        have := Nat.one_le_pow cs.length 10 (by decide)
        have := Nat.mul_le_mul_right (10 * m.value + digitValue c) this
        omega
      rw [step] at h
      have fits : 10 * m.value + digitValue c < countBound := Nat.lt_of_le_of_lt grows h
      rw [readDigits, if_pos hc, dif_pos fits]
      rw [ih ⟨_, fits⟩ (fun d hd => hDigits d (List.mem_cons_of_mem _ hd)) h]
      simp only [step]

theorem readDigits_countText (n : Count) : readDigits .zero n.text.toList = .ok n := by
  have value : Nat.ofDigitChars 10 n.text.toList Count.zero.value = n.value := by
    rw [toList_countText]
    exact Nat.ofDigitChars_ten_toDigits
  rw [readDigits_eq _ .zero (isDigit_of_mem_countText n) (by rw [value]; exact n.bounded)]
  simp only [value]

theorem readCount_countText (n : Count) : readCount n.text.toList = .ok n := by
  rw [← readDigits_countText n]
  have hDigits := isDigit_of_mem_countText n
  have hNonempty := countText_ne_nil n
  cases hText : n.text.toList with
  | nil => exact absurd hText hNonempty
  | cons c cs =>
      have hc : c ≠ '+' := by
        intro hPlus
        have := hDigits c (hText ▸ List.mem_cons_self ..)
        rw [hPlus] at this
        exact absurd this (by decide)
      rw [readCount.eq_def]
      split
      · next h => cases h
      · next h => exact absurd (List.cons.inj h).1 hc
      · next h => exact absurd (List.cons.inj h).1 hc
      · rfl

theorem isDigit_of_readDigits (ds : List Char) :
    ∀ (m n : Count), readDigits m ds = .ok n → ∀ c ∈ ds, c.isDigit = true := by
  induction ds with
  | nil => intro _ _ _ c hc; cases hc
  | cons d ds ih =>
      intro m n h c hc
      rw [readDigits] at h
      split at h
      · next hd =>
          split at h
          · rcases List.mem_cons.1 hc with rfl | hc
            · exact hd
            · exact ih _ n h c hc
          · cases h
      · cases h

/-- The last character of a text that is a count is a digit. -/
theorem isDigit_of_readCount (cs : List Char) (last : Char) (n : Count)
    (h : readCount (cs ++ [last]) = .ok n) : last.isDigit = true := by
  rw [readCount.eq_def] at h
  split at h
  · cases h
  · cases h
  · next rest _ hText =>
      have hMem : last ∈ rest := by
        cases cs with
        | nil =>
            simp only [List.nil_append, List.cons.injEq] at hText
            exact absurd hText.2.symm (by assumption)
        | cons c cs =>
            have := (List.cons.inj hText).2
            rw [← this]
            simp
      exact isDigit_of_readDigits rest _ n h last hMem
  · exact isDigit_of_readDigits _ _ n h last (by simp)

theorem not_isDigit_of_isBlank (c : Char) (h : isBlank c = true) : c.isDigit = false := by
  have outside : ¬ (48 ≤ c.toNat ∧ c.toNat ≤ 57) := by
    simp only [isBlank, Bool.or_eq_true, Bool.and_eq_true, decide_eq_true_eq, beq_iff_eq] at h
    omega
  rw [Bool.eq_false_iff]
  intro isDigit
  simp only [Char.isDigit, Bool.and_eq_true, decide_eq_true_eq, UInt32.le_iff_toNat_le] at isDigit
  exact outside isDigit

/-! ## Last occurrences -/

/-- A piece has no last occurrence exactly when it does not occur. -/
theorem cutLast?_eq_none_iff (piece cs : List Char) :
    cutLast? piece cs = none ↔ ¬ piece <:+: cs := by
  have at_front : ∀ xs, after? piece xs = none ↔ ¬ piece <+: xs := by
    intro xs
    rw [Option.eq_none_iff_forall_ne_some]
    simp only [ne_eq, after?_eq_some_iff]
    constructor
    · rintro h ⟨rest, rfl⟩
      exact h rest rfl
    · rintro h rest rfl
      exact h (List.prefix_append piece rest)
  induction cs with
  | nil =>
      rw [cutLast?, Option.map_eq_none_iff, at_front, List.infix_nil, List.prefix_nil]
  | cons c cs ih =>
      rw [cutLast?, List.infix_cons_iff, not_or]
      cases hCut : cutLast? piece cs with
      | none =>
          rw [Option.map_eq_none_iff, at_front]
          exact (and_iff_left (ih.1 hCut)).symm
      | some sides =>
          have occurs : piece <:+: cs := by
            apply Classical.byContradiction
            intro absent
            rw [ih.2 absent] at hCut
            cases hCut
          simp [occurs]

/-- A piece that does not occur again from its second character on is found where it stands. -/
theorem cutLast?_append (p : Char) (ps rest : List Char)
    (h : cutLast? (p :: ps) (ps ++ rest) = none) (before : List Char) :
    cutLast? (p :: ps) (before ++ (p :: ps) ++ rest) = some (before, rest) := by
  induction before with
  | nil =>
      have front : after? (p :: ps) (p :: (ps ++ rest)) = some rest :=
        after?_append (p :: ps) rest
      simp [cutLast?, h, front]
  | cons c before ih =>
      simp only [List.cons_append, List.append_assoc] at ih ⊢
      simp [cutLast?, ih]

/-! ## Trimming -/

/-- Whether a text has no blanks at its ends. -/
def IsTrimmed (cs : List Char) : Prop :=
  (∀ c ∈ cs.head?, isBlank c = false) ∧ ∀ c ∈ cs.getLast?, isBlank c = false

theorem trimStart_of_isTrimmed (cs : List Char) (h : ∀ c ∈ cs.head?, isBlank c = false) :
    trimStart cs = cs := by
  cases cs with
  | nil => rfl
  | cons c cs => exact trimStart_of_head c cs (h c rfl)

theorem trim_of_isTrimmed (cs : List Char) (h : IsTrimmed cs) : trim cs = cs := by
  have back : trimStart cs.reverse = cs.reverse := by
    apply trimStart_of_isTrimmed
    intro c hc
    exact h.2 c (by rwa [List.head?_reverse] at hc)
  rw [trim, trimEnd, trimStart_of_isTrimmed cs h.1, back, List.reverse_reverse]

theorem trim_space_cons (cs : List Char) : trim (' ' :: cs) = trim cs := rfl

theorem trim_append_space (cs : List Char) (h : IsTrimmed cs) : trim (cs ++ [' ']) = cs := by
  cases cs with
  | nil => rfl
  | cons c cs =>
      have front : trimStart (c :: cs ++ [' ']) = c :: cs ++ [' '] :=
        trimStart_of_head c _ (h.1 c rfl)
      have back := trim_of_isTrimmed (c :: cs) h
      rw [trim, trimStart_of_isTrimmed _ h.1] at back
      rw [trim, front, trimEnd, List.reverse_append]
      exact back

end BoundaryLog.Text
