import BoundaryLog.Proofs.Texts
import BoundaryLog.Time.Stamp

/-! # Stamps are read back

A day is the day of its date, an instant the instant of its date and time of day, as far as the
second goes, and a stamp is read as the beginning of the second that its instant shows.  No text is
read as an instant within a second. -/
set_option autoImplicit false
namespace BoundaryLog

theorem bind_eq_ok_iff {ε α β : Type} {first : Except ε α} {next : α → Except ε β} {y : β} :
    (first >>= next) = .ok y ↔ ∃ x, first = .ok x ∧ next x = .ok y := by
  cases first with
  | error fault =>
      constructor
      · intro h
        cases h
      · rintro ⟨x, h, -⟩
        cases h
  | ok x =>
      constructor
      · intro h
        exact ⟨x, rfl, h⟩
      · rintro ⟨_, h, hNext⟩
        cases h
        exact hNext

/-! ## Dates -/

theorem daysIn_monthLengths (leap : Bool) :
    daysIn (monthLengths leap) = if leap then 366 else 365 := by
  cases leap <;> rfl

theorem daysBeforeYear_succ (year : Int) :
    daysBeforeYear (year + 1) = daysBeforeYear year + daysIn (monthLengths (isLeapYear year)) := by
  rw [daysIn_monthLengths]
  unfold daysBeforeYear isLeapYear
  simp only [Bool.and_eq_true, Bool.or_eq_true, beq_iff_eq, bne_iff_ne, ne_eq]
  split <;> omega

theorem daysBeforeYear_le {y z : Int} (h : y ≤ z) : daysBeforeYear y ≤ daysBeforeYear z := by
  rcases Int.lt_or_eq_of_le h with hLess | rfl
  · unfold daysBeforeYear
    omega
  · exact Int.le_refl _

theorem monthLengths_getD_le (leap : Bool) (month : Nat) : (monthLengths leap).getD month 0 ≤ 31 := by
  rw [List.getD_eq_getElem?_getD]
  cases h : (monthLengths leap)[month]? with
  | none => exact Nat.zero_le 31
  | some length =>
      have all : ∀ n ∈ monthLengths leap, n ≤ 31 := by cases leap <;> decide
      exact all length (List.mem_of_getElem? h)

/-- What is left after the full months is within the next one. -/
theorem splitMonths_spec (lengths : List Nat) (day : Nat) (h : day < daysIn lengths) :
    (splitMonths lengths day).1 < lengths.length ∧
      (splitMonths lengths day).2 < lengths.getD (splitMonths lengths day).1 0 ∧
      daysIn (lengths.take (splitMonths lengths day).1) + (splitMonths lengths day).2 = day := by
  induction lengths generalizing day with
  | nil => exact absurd h (Nat.not_lt_zero day)
  | cons length rest ih =>
      by_cases hFirst : day < length
      · simp [splitMonths, hFirst, daysIn]
      · have later : day - length < daysIn rest := by
          rw [daysIn] at h
          omega
        obtain ⟨months, left, total⟩ := ih (day - length) later
        simp only [splitMonths, hFirst, if_false, List.length_cons, List.getD_cons_succ,
          List.take_succ_cons, daysIn]
        exact ⟨by omega, left, by omega⟩

namespace Date

/-- The date of a day is in the calendar, and it is the date of no other day. -/
theorem ofDayNumber_spec (day : Int) :
    (ofDayNumber day).Valid ∧ (ofDayNumber day).dayNumber = day := by
  obtain ⟨notBefore, notAfter⟩ := yearOfDay_bounds day
  rw [daysBeforeYear_succ] at notAfter
  have within : (day - daysBeforeYear (yearOfDay day)).toNat <
      daysIn (monthLengths (isLeapYear (yearOfDay day))) := by omega
  obtain ⟨months, left, total⟩ := splitMonths_spec _ _ within
  have twelve : (monthLengths (isLeapYear (yearOfDay day))).length = 12 := rfl
  rw [twelve] at months
  constructor
  · refine ⟨Nat.le_add_left .., months, Nat.le_add_left .., ?_⟩
    exact left
  · unfold dayNumber ofDayNumber
    simp only [Nat.add_sub_cancel]
    omega

end Date

/-! ## Instants -/

namespace Instant
variable (t : Instant)

theorem hour_lt : t.hour < 24 := by
  unfold hour secondOfDay
  omega

theorem minute_lt : t.minute < 60 := by
  unfold minute
  omega

theorem second_le : t.second ≤ 60 := by
  unfold second
  split <;> omega

/-- Only a leap second shows as the sixtieth. -/
theorem second_eq_iff : t.second = 60 ↔ t.inLeapSecond = true ∧ t.seconds % 60 = 59 := by
  unfold second secondOfDay
  cases t.inLeapSecond with
  | false =>
      simp only [Bool.false_eq_true, if_false, false_and, iff_false]
      omega
  | true =>
      simp only [if_true, true_and]
      omega

/-! ### The second that is shown -/

variable {t} in
theorem shownSecond_of_isRegular (h : t.IsRegular) : t.shownSecond = t.wholeSecond := dif_pos h

variable {t} in
theorem not_isRegular_iff :
    ¬ t.IsRegular ↔ t.inLeapSecond = true ∧ t.seconds % 60 ≠ 59 := Classical.not_imp

theorem seconds_shownSecond :
    t.shownSecond.seconds = if t.IsRegular then t.seconds else t.seconds + 1 := by
  unfold shownSecond
  split <;> rfl

theorem nanos_shownSecond :
    t.shownSecond.nanos = if t.IsRegular then t.wholeSecond.nanos else 0 := by
  unfold shownSecond
  split <;> rfl

/-- Hours, minutes and seconds of an instant make up the second of the day that it shows. -/
theorem secondOfDay_eq : 3600 * t.hour + 60 * t.minute + min t.second 59 =
    t.secondOfDay + if t.IsRegular then 0 else 1 := by
  have shown : min t.second 59 = t.secondOfDay % 60 + if t.IsRegular then 0 else 1 := by
    by_cases hRegular : t.IsRegular
    · rw [if_pos hRegular]
      unfold second secondOfDay
      cases hLeap : t.inLeapSecond with
      | false =>
          simp only [Bool.false_eq_true, if_false]
          omega
      | true =>
          have last := hRegular hLeap
          simp only [if_true]
          omega
    · obtain ⟨leap, notLast⟩ := not_isRegular_iff.1 hRegular
      rw [if_neg hRegular]
      unfold second secondOfDay
      rw [leap]
      simp only [if_true]
      omega
  rw [shown]
  unfold hour minute
  omega

theorem ofDate?_date : ofDate? t.date t.hour t.minute t.second = some t.shownSecond := by
  obtain ⟨valid, number⟩ := Date.ofDayNumber_spec (t.seconds / 86400 + epochDay)
  have seconds : 86400 * (t.date.dayNumber - epochDay) +
      ((3600 * t.hour + 60 * t.minute + min t.second 59 : Nat) : Int) = t.shownSecond.seconds := by
    have number : t.date.dayNumber = t.seconds / 86400 + epochDay := number
    rw [secondOfDay_eq, number, secondOfDay, seconds_shownSecond]
    by_cases hRegular : t.IsRegular
    · simp only [if_pos hRegular]
      omega
    · simp only [if_neg hRegular]
      omega
  have nanos : (if t.second = 60 then nanosPerSecond else 0) = t.shownSecond.nanos := by
    simp only [second_eq_iff, nanos_shownSecond]
    by_cases hRegular : t.IsRegular
    · rw [if_pos hRegular]
      have leap : t.inLeapSecond = true ∧ t.seconds % 60 = 59 ↔ t.inLeapSecond = true :=
        and_iff_left_of_imp hRegular
      simp only [leap]
      rfl
    · rw [if_neg hRegular]
      exact if_neg fun h => (not_isRegular_iff.1 hRegular).2 h.2
  unfold ofDate?
  rw [if_pos (show t.date.Valid from valid)]
  simp only
  rw [seconds, nanos]
  exact ofUnix?_self t.shownSecond

theorem year_bounds : firstYear ≤ t.date.year ∧ t.date.year ≤ lastYear := by
  obtain ⟨yearBefore, yearAfter⟩ := yearOfDay_bounds (t.seconds / 86400 + epochDay)
  have year : t.date.year = yearOfDay (t.seconds / 86400 + epochDay) := rfl
  have notBefore := t.notBefore
  have notAfter := t.notAfter
  rw [year]
  constructor
  · apply Int.not_lt.1
    intro early
    have := daysBeforeYear_le (Int.add_one_le_of_lt early)
    omega
  · apply Int.not_lt.1
    intro late
    have := daysBeforeYear_le (Int.add_one_le_of_lt late)
    omega

variable {t} in
theorem isRegular_of_whole
    (h : t.nanos = 0 ∨ t.nanos = nanosPerSecond ∧ t.seconds % 60 = 59) : t.IsRegular := by
  intro hLeap
  rcases h with hZero | ⟨-, last⟩
  · rw [inLeapSecond, hZero] at hLeap
    exact absurd hLeap (by decide)
  · exact last

/-- What shows nothing but itself: the beginnings of seconds, leap seconds among them. -/
theorem shownSecond_eq_self_iff :
    t.shownSecond = t ↔ t.nanos = 0 ∨ t.nanos = nanosPerSecond ∧ t.seconds % 60 = 59 := by
  have leap : t.inLeapSecond = true ↔ nanosPerSecond ≤ t.nanos := decide_eq_true_iff
  have nanos : t.wholeSecond.nanos = if t.inLeapSecond = true then nanosPerSecond else 0 := rfl
  constructor
  · intro same
    have hRegular : t.IsRegular := by
      apply Classical.byContradiction
      intro hNot
      have seconds := t.seconds_shownSecond
      rw [same, if_neg hNot] at seconds
      omega
    rw [shownSecond_of_isRegular hRegular] at same
    rw [same] at nanos
    by_cases hLeap : t.inLeapSecond = true
    · rw [if_pos hLeap] at nanos
      exact Or.inr ⟨nanos, hRegular hLeap⟩
    · rw [if_neg hLeap] at nanos
      exact Or.inl nanos
  · intro whole
    have same : (if t.inLeapSecond = true then nanosPerSecond else 0) = t.nanos := by
      simp only [leap]
      rcases whole with hZero | ⟨hLeap, -⟩
      · rw [hZero]
        rfl
      · rw [hLeap]
        rfl
    rw [shownSecond_of_isRegular (isRegular_of_whole whole)]
    unfold wholeSecond
    simp only [same]

theorem eq_of_ofUnix? (seconds : Int) (nanos : Nat) (t : Instant)
    (h : ofUnix? seconds nanos = some t) : t.seconds = seconds ∧ t.nanos = nanos := by
  unfold ofUnix? at h
  split at h
  · cases h
    exact ⟨rfl, rfl⟩
  · cases h

theorem shownSecond_of_ofDate? (d : Date) (hour minute second : Nat) (t : Instant)
    (h : ofDate? d hour minute second = some t) : t.shownSecond = t := by
  rw [shownSecond_eq_self_iff]
  unfold ofDate? at h
  by_cases valid : d.Valid
  · rw [if_pos valid] at h
    obtain ⟨seconds, nanos⟩ := eq_of_ofUnix? _ _ t h
    by_cases hLeap : second = 60
    · rw [if_pos hLeap] at nanos
      refine Or.inr ⟨nanos, ?_⟩
      rw [seconds, hLeap]
      omega
    · exact Or.inl (nanos.trans (if_neg hLeap))
  · rw [if_neg valid] at h
    cases h

end Instant

/-! ## Numbers of a stamp -/

namespace Stamp
open Text

section Padded
variable (width n : Nat)

theorem isDigit_of_mem_padded (c : Char) (h : c ∈ padded width n) : c.isDigit = true := by
  rcases List.mem_append.1 h with hZero | hDigit
  · rw [List.eq_of_mem_replicate hZero]
    rfl
  · exact Nat.isDigit_of_mem_toDigits (by decide) (by decide) hDigit

theorem padded_eq_cons : ∃ d ds, padded width n = d :: ds ∧ d.isDigit = true := by
  obtain ⟨d, ds, hCons⟩ : ∃ d ds, padded width n = d :: ds :=
    List.exists_cons_of_ne_nil (List.append_ne_nil_of_right_ne_nil _ Nat.toDigits_ne_nil)
  exact ⟨d, ds, hCons, isDigit_of_mem_padded width n d (hCons ▸ List.mem_cons_self ..)⟩

theorem length_padded (h : (Nat.toDigits 10 n).length ≤ width) :
    (padded width n).length = width := by
  unfold padded
  rw [List.length_append, List.length_replicate]
  omega

theorem ofDigitChars_padded : Nat.ofDigitChars 10 (padded width n) 0 = n := by
  unfold padded
  rw [Nat.ofDigitChars_append, Nat.ofDigitChars_replicate_zero, Nat.mul_zero,
    Nat.ofDigitChars_ten_toDigits]

theorem trimStart_padded (rest : List Char) :
    trimStart (padded width n ++ rest) = padded width n ++ rest := by
  obtain ⟨d, ds, hCons, isDigit⟩ := padded_eq_cons width n
  rw [hCons]
  apply trimStart_of_head
  cases hBlank : isBlank d with
  | false => rfl
  | true =>
      rw [not_isDigit_of_isBlank d hBlank] at isDigit
      cases isDigit

theorem number_padded (rest : List Char) (h : n < 0x8000000000000000) :
    number (padded width n) rest = .ok (n, rest) := by
  have value := ofDigitChars_padded width n
  obtain ⟨d, ds, hCons, -⟩ := padded_eq_cons width n
  rw [hCons] at value ⊢
  unfold number
  rw [value]
  exact if_pos h

theorem longNumber_padded (rest : List Char) (h : n < 0x8000000000000000)
    (hRest : ∀ c ∈ rest.head?, c.isDigit = false) :
    longNumber (padded width n ++ rest) = .ok (n, rest) := by
  obtain ⟨front, back⟩ := span_append (padded width n) rest (isDigit_of_mem_padded width n) hRest
  rw [longNumber, front, back, number_padded width n rest h]

theorem shortNumber_padded (rest : List Char) (h : (Nat.toDigits 10 n).length ≤ width)
    (hBound : n < 0x8000000000000000) :
    shortNumber width (padded width n ++ rest) = .ok (n, rest) := by
  have length := length_padded width n h
  have front : ((padded width n ++ rest).take width).takeWhile Char.isDigit = padded width n := by
    have whole := span_append (padded width n) [] (isDigit_of_mem_padded width n) nofun
    rw [List.append_nil] at whole
    rw [List.take_left' length]
    exact whole.1
  unfold shortNumber
  simp only [front, List.drop_left]
  exact number_padded width n rest hBound

end Padded

theorem field_padded (low high n : Nat) (rest : List Char) (hLow : low ≤ n) (hHigh : n ≤ high)
    (hTwo : high < 100) : field low high (padded 2 n ++ rest) = .ok (n, rest) := by
  have fits : (Nat.toDigits 10 n).length ≤ 2 :=
    (Nat.length_toDigits_le_iff (by decide) (by decide)).2 (by omega)
  unfold field
  rw [trimStart_padded, shortNumber_padded 2 n rest fits (by omega)]
  exact if_pos ⟨hLow, hHigh⟩

theorem separator_cons (c : Char) (rest : List Char) : separator c (c :: rest) = .ok rest :=
  if_pos rfl

theorem year_plain (y : Int) (rest : List Char) (hPlain : 0 ≤ y ∧ y ≤ 9999) :
    year (padded 4 y.toNat ++ rest) = .ok (y, rest) := by
  have fits : -0x80000000 ≤ y ∧ y < 0x80000000 := by omega
  have four : (Nat.toDigits 10 y.toNat).length ≤ 4 :=
    (Nat.length_toDigits_le_iff (by decide) (by decide)).2 (by omega)
  have value : shortNumber 4 (padded 4 y.toNat ++ rest) = .ok (y.toNat, rest) :=
    shortNumber_padded 4 y.toNat rest four (by omega)
  have signed : (pure ((y.toNat : Int), rest) : Except Fault _) = .ok (y, rest) := by
    rw [Int.toNat_of_nonneg hPlain.1]
    rfl
  obtain ⟨d, ds, hCons, isDigit⟩ := padded_eq_cons 4 y.toNat
  unfold year
  rw [trimStart_padded]
  rw [hCons, List.cons_append] at value ⊢
  dsimp only
  split
  · next h =>
      cases h
      exact absurd isDigit (by decide)
  · next h =>
      cases h
      exact absurd isDigit (by decide)
  · exact bind_eq_ok_iff.2 ⟨_, value, bind_eq_ok_iff.2 ⟨_, signed, if_pos fits⟩⟩

/-- A year is read with the sign that it is written with. -/
theorem year_yearText (y : Int) (rest : List Char) (hy : firstYear ≤ y ∧ y ≤ lastYear)
    (hRest : ∀ c ∈ rest.head?, c.isDigit = false) :
    year (yearText y ++ rest) = .ok (y, rest) := by
  have bounds : -262143 ≤ y ∧ y ≤ 262142 := hy
  have fits : -0x80000000 ≤ y ∧ y < 0x80000000 := by omega
  have value : longNumber (padded 4 y.natAbs ++ rest) = .ok (y.natAbs, rest) :=
    longNumber_padded 4 y.natAbs rest (by omega) hRest
  unfold yearText
  by_cases hPlain : 0 ≤ y ∧ y ≤ 9999
  · rw [if_pos hPlain]
    exact year_plain y rest hPlain
  rw [if_neg hPlain]
  by_cases hNegative : y < 0
  · have sign : -(y.natAbs : Int) = y := by omega
    have signed : (pure (-(y.natAbs : Int), rest) : Except Fault _) = .ok (y, rest) := by
      rw [sign]
      rfl
    have start : trimStart ('-' :: (padded 4 y.natAbs ++ rest)) =
        '-' :: (padded 4 y.natAbs ++ rest) := rfl
    rw [if_pos hNegative, List.cons_append, year, start]
    exact bind_eq_ok_iff.2 ⟨_, value, bind_eq_ok_iff.2 ⟨_, signed, if_pos fits⟩⟩
  · have sign : (y.natAbs : Int) = y := by omega
    have signed : (pure ((y.natAbs : Int), rest) : Except Fault _) = .ok (y, rest) := by
      rw [sign]
      rfl
    have start : trimStart ('+' :: (padded 4 y.natAbs ++ rest)) =
        '+' :: (padded 4 y.natAbs ++ rest) := rfl
    rw [if_neg hNegative, List.cons_append, year, start]
    exact bind_eq_ok_iff.2 ⟨_, value, bind_eq_ok_iff.2 ⟨_, signed, if_pos fits⟩⟩

/-! ## Stamps -/

theorem toList_write (t : Instant) :
    (write t).toList = yearText t.date.year ++ '-' :: (padded 2 t.date.month ++ '-' ::
      (padded 2 t.date.day ++ ' ' :: (padded 2 t.hour ++ ':' :: (padded 2 t.minute ++ ':' ::
        (padded 2 t.second ++ []))))) := by
  unfold write
  simp only [String.toList_ofList, List.append_assoc, List.cons_append, List.nil_append,
    List.append_nil]

theorem field_space_cons (low high : Nat) (rest : List Char) :
    field low high (' ' :: rest) = field low high rest := rfl

/-- What is left of an instant in its stamp is the second that it shows. -/
theorem read_write (t : Instant) : read (write t).toList = .ok t.shownSecond := by
  obtain ⟨month_pos, month_le, day_pos, day_le⟩ := (Date.ofDayNumber_spec
    (t.seconds / 86400 + epochDay)).1
  have year := fun rest hRest => year_yearText t.date.year rest t.year_bounds hRest
  have month := fun rest => field_padded 1 12 t.date.month rest month_pos month_le (by decide)
  have day := fun rest => field_padded 1 31 t.date.day rest day_pos
    (Nat.le_trans day_le (monthLengths_getD_le _ _)) (by decide)
  have hour := fun rest => field_padded 0 23 t.hour rest (Nat.zero_le _)
    (Nat.le_of_lt_succ t.hour_lt) (by decide)
  have minute := fun rest => field_padded 0 59 t.minute rest (Nat.zero_le _)
    (Nat.le_of_lt_succ t.minute_lt) (by decide)
  have second := fun rest => field_padded 0 60 t.second rest (Nat.zero_le _) t.second_le (by decide)
  rw [toList_write]
  unfold read
  rw [year _ (by intro c hc; cases hc; rfl)]
  simp only [bind, Except.bind, separator_cons, month, day, field_space_cons, hour, minute, second,
    List.isEmpty_nil, if_true, t.ofDate?_date]

/-- What a stamp denotes is the beginning of a second. -/
theorem shownSecond_of_read (cs : List Char) (t : Instant) (h : read cs = .ok t) :
    t.shownSecond = t := by
  unfold read at h
  obtain ⟨⟨y, cs⟩, -, h⟩ := bind_eq_ok_iff.1 h
  obtain ⟨cs, -, h⟩ := bind_eq_ok_iff.1 h
  obtain ⟨⟨month, cs⟩, -, h⟩ := bind_eq_ok_iff.1 h
  obtain ⟨cs, -, h⟩ := bind_eq_ok_iff.1 h
  obtain ⟨⟨day, cs⟩, -, h⟩ := bind_eq_ok_iff.1 h
  obtain ⟨⟨hour, cs⟩, -, h⟩ := bind_eq_ok_iff.1 h
  obtain ⟨cs, -, h⟩ := bind_eq_ok_iff.1 h
  obtain ⟨⟨minute, cs⟩, -, h⟩ := bind_eq_ok_iff.1 h
  obtain ⟨cs, -, h⟩ := bind_eq_ok_iff.1 h
  obtain ⟨⟨second, cs⟩, -, h⟩ := bind_eq_ok_iff.1 h
  dsimp only at h
  split at h
  · split at h
    · next date =>
        cases h
        exact Instant.shownSecond_of_ofDate? _ _ _ _ _ date
    · cases h
  · cases h

end Stamp
end BoundaryLog
