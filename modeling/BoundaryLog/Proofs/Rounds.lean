import BoundaryLog.Clause.Token

/-! # Going over a text from place to place

The tokens of a text are also found by a loop that keeps a place in the text and the tokens so far.
Every round of it starts at a place before the end and leads to a later one, which is not beyond the
end.  So it makes no more rounds than there are characters, and it ends with the list of the tokens or
with the fault of the text. -/
set_option autoImplicit false
namespace BoundaryLog.Token

/-! ## The loop -/

/-- The part of a text between two places. -/
def slice (text : List Char) (start stop : Nat) : List Char := (text.drop start).take (stop - start)

/-- The place after all characters of a kind that stand together from a place on. -/
def passing (p : Char → Bool) (text : List Char) (place : Nat) : Nat :=
  if h : place < text.length then
    if p text[place] then passing p text (place + 1) else place
  else place
termination_by text.length - place

def operatorAt (operators : Operator × Operator) (text : List Char) (place : Nat) : Token × Nat :=
  if text[place + 1]? = some '=' then (.op operators.2, place + 2) else (.op operators.1, place + 1)

/-- A quoted text, from its opening quote on. -/
def textAt (text : List Char) (place : Nat) : Except Fault (Token × Nat) :=
  let stop := passing (· != '"') text (place + 1)
  if stop < text.length then .ok (.text (String.ofList (slice text (place + 1) stop)), stop + 1)
  else .error .unterminatedText

def numberAt (text : List Char) (place : Nat) : Except Fault (Token × Nat) :=
  let stop := passing Char.isDigit text place
  match Text.readDigits .zero (slice text place stop) with
  | .error fault => .error (.badNumber fault)
  | .ok n => .ok (.number n, stop)

def wordAt (text : List Char) (place : Nat) : Token × Nat :=
  let stop := passing isWordChar text place
  (.word (String.ofList (slice text place stop)), stop)

/-- The token at a place, which holds no space, with the place after it. -/
def tokenAt (text : List Char) (place : Nat) (h : place < text.length) :
    Except Fault (Token × Nat) :=
  match single? text[place] with
  | some token => .ok (token, place + 1)
  | none =>
      match operators? text[place] with
      | some operators => .ok (operatorAt operators text place)
      | none =>
          if text[place] = '"' then textAt text place
          else if text[place].isDigit then numberAt text place
          else if Text.isAlphabetic text[place] then .ok (wordAt text place)
          else .error (.unexpectedCharacter text[place])

/-- One round: the token that was found, unless there was a space, and the place that is next. -/
def round (text : List Char) (place : Nat) (h : place < text.length) :
    Except Fault (Option Token × Nat) :=
  if text[place] = ' ' then .ok (none, place + 1)
  else (tokenAt text place h).map fun (token, next) => (some token, next)

/-- The outcome after a number of rounds at most, if the end has been reached by then. -/
def rounds (text : List Char) : Nat → Nat → List Token → Option (Except Fault (List Token))
  | 0, place, tokens => if place < text.length then none else some (.ok tokens)
  | n + 1, place, tokens =>
      if h : place < text.length then
        match round text place h with
        | .error fault => some (.error fault)
        | .ok (token, next) => rounds text n next (tokens ++ token.toList)
      else some (.ok tokens)

/-! ## Characters of a kind -/

theorem drop_succ_of_drop {α : Type} {xs rest : List α} {x : α} {n : Nat}
    (h : xs.drop n = x :: rest) : n < xs.length ∧ xs.drop (n + 1) = rest := by
  constructor
  · have shorter := congrArg List.length h
    rw [List.length_drop, List.length_cons] at shorter
    omega
  · rw [← List.tail_drop, h, List.tail_cons]

section Passing
variable (p : Char → Bool) (text : List Char)

theorem passing_eq (place : Nat) :
    passing p text place = place + ((text.drop place).takeWhile p).length := by
  fun_induction passing p text place with
  | case1 place inside holds ih =>
      rw [ih, List.drop_eq_getElem_cons inside, List.takeWhile_cons_of_pos holds, List.length_cons]
      omega
  | case2 place inside fails =>
      rw [List.drop_eq_getElem_cons inside, List.takeWhile_cons_of_neg fails]
      rfl
  | case3 place outside =>
      rw [List.drop_of_length_le (Nat.le_of_not_lt outside)]
      rfl

theorem slice_passing (place : Nat) :
    slice text place (passing p text place) = (text.drop place).takeWhile p := by
  rw [passing_eq, slice, Nat.add_sub_cancel_left]
  exact (List.prefix_iff_eq_take.1 (List.takeWhile_prefix p)).symm

theorem drop_passing (place : Nat) :
    text.drop (passing p text place) = (text.drop place).dropWhile p := by
  have whole := List.takeWhile_append_dropWhile (p := p) (l := text.drop place)
  rw [passing_eq, ← List.drop_drop]
  exact (congrArg (List.drop _) whole.symm).trans (List.drop_left ..)

theorem passing_le (place : Nat) (h : place ≤ text.length) : passing p text place ≤ text.length := by
  have taken := (List.takeWhile_prefix p (l := text.drop place)).length_le
  rw [List.length_drop] at taken
  rw [passing_eq]
  omega

/-- What stands at a place is gone over if it is of the kind. -/
theorem passing_of_holds (place : Nat) (h : place < text.length) (holds : p text[place] = true) :
    place < passing p text place ∧
      slice text place (passing p text place) =
        text[place] :: (text.drop (place + 1)).takeWhile p ∧
      text.drop (passing p text place) = (text.drop (place + 1)).dropWhile p := by
  rw [slice_passing, drop_passing, passing_eq, List.drop_eq_getElem_cons h,
    List.takeWhile_cons_of_pos holds, List.dropWhile_cons_of_pos holds, List.length_cons]
  exact ⟨by omega, rfl, rfl⟩

end Passing

/-! ## A single round -/

/-- Whether a token was found at a place as it is scanned there, and the place after it is later and
within the text. -/
inductive Finds (text : List Char) (place : Nat) {bound : Nat} :
    Except Fault (Token × Nat) → Except Fault (Scanned bound) → Prop where
  | failed (fault : Fault) : Finds text place (.error fault) (.error fault)
  | found (token : Token) (next : Nat) (later : place < next) (within : next ≤ text.length)
      (h : (text.drop next).length ≤ bound) :
      Finds text place (.ok (token, next)) (.ok ⟨token, text.drop next, h⟩)

theorem Finds.advances {text : List Char} {place bound : Nat} {token : Token} {next : Nat}
    {scanned : Except Fault (Scanned bound)} (h : Finds text place (.ok (token, next)) scanned) :
    place < next ∧ next ≤ text.length := by
  cases h with
  | found _ _ later within _ => exact ⟨later, within⟩

section Round
variable {text : List Char} {place : Nat} (h : place < text.length)

theorem finds_of_rest {bound : Nat} {token : Token} {rest : List Char} {next : Nat}
    {hRest : rest.length ≤ bound} (later : place < next) (within : next ≤ text.length)
    (left : text.drop next = rest) :
    Finds text place (.ok (token, next)) (.ok (⟨token, rest, hRest⟩ : Scanned bound)) := by
  subst left
  exact .found token next later within hRest

include h in
theorem finds_operator (operators : Operator × Operator) :
    Finds text place (.ok (operatorAt operators text place))
      (.ok (scanOperator operators (text.drop (place + 1)))) := by
  have ahead : text[place + 1]? = (text.drop (place + 1)).head? := List.head?_drop.symm
  rw [operatorAt, ahead]
  cases hDrop : text.drop (place + 1) with
  | nil => exact finds_of_rest (Nat.lt_succ_self _) h hDrop
  | cons c cs =>
      obtain ⟨inside, left⟩ := drop_succ_of_drop hDrop
      rw [scanOperator]
      by_cases hc : c = '='
      · rw [if_pos hc, List.head?_cons, if_pos (congrArg some hc)]
        exact finds_of_rest (by omega) inside left
      · rw [if_neg hc, List.head?_cons, if_neg fun same => hc (Option.some.inj same)]
        exact finds_of_rest (Nat.lt_succ_self _) h hDrop

omit h in
theorem finds_text : Finds text place (textAt text place) (scanText (text.drop (place + 1))) := by
  have left := drop_passing (· != '"') text (place + 1)
  have later : place + 1 ≤ passing (· != '"') text (place + 1) := by
    rw [passing_eq]
    exact Nat.le_add_right _ _
  unfold textAt scanText
  split
  case h_1 hEnd =>
      rw [hEnd, List.drop_eq_nil_iff] at left
      rw [if_neg (Nat.not_lt.2 left)]
      exact .failed _
  case h_2 c rest hEnd =>
      rw [hEnd] at left
      obtain ⟨inside, last⟩ := drop_succ_of_drop left
      rw [if_pos inside, slice_passing]
      exact finds_of_rest (by omega) inside last

theorem finds_number (holds : text[place].isDigit = true) :
    Finds text place (numberAt text place) (scanNumber text[place] (text.drop (place + 1))) := by
  obtain ⟨later, digits, left⟩ := passing_of_holds Char.isDigit text place h holds
  simp only [numberAt, scanNumber, digits]
  cases Text.readDigits .zero (text[place] :: (text.drop (place + 1)).takeWhile Char.isDigit) with
  | error fault => exact .failed _
  | ok n => exact finds_of_rest later (passing_le _ text place (Nat.le_of_lt h)) left

/-- A word goes over its first character, since a letter carries on a word. -/
theorem finds_word (letter : Text.isAlphabetic text[place] = true) :
    Finds text place (.ok (wordAt text place)) (.ok (scanWord text[place] (text.drop (place + 1)))) := by
  have holds : isWordChar text[place] = true := by
    rw [isWordChar, Text.isAlphanumeric, letter]
    rfl
  obtain ⟨later, taken, left⟩ := passing_of_holds isWordChar text place h holds
  simp only [wordAt, scanWord, taken]
  exact finds_of_rest later (passing_le _ text place (Nat.le_of_lt h)) left

theorem finds_tokenAt :
    Finds text place (tokenAt text place h) (scan text[place] (text.drop (place + 1))) := by
  unfold tokenAt scan
  cases single? text[place] with
  | some token => exact .found token (place + 1) (Nat.lt_succ_self _) h _
  | none =>
      cases operators? text[place] with
      | some operators => exact finds_operator h operators
      | none =>
          by_cases hQuote : text[place] = '"'
          · simp only [if_pos hQuote]
            exact finds_text
          · simp only [if_neg hQuote]
            by_cases hDigit : text[place].isDigit = true
            · simp only [if_pos hDigit]
              exact finds_number h hDigit
            · simp only [if_neg hDigit]
              by_cases hLetter : Text.isAlphabetic text[place] = true
              · simp only [if_pos hLetter]
                exact finds_word h hLetter
              · simp only [if_neg hLetter]
                exact .failed _

/-- Every round leads to a later place within the text. -/
theorem round_advances {token : Option Token} {next : Nat}
    (hRound : round text place h = .ok (token, next)) : place < next ∧ next ≤ text.length := by
  unfold round at hRound
  by_cases hSpace : text[place] = ' '
  · rw [if_pos hSpace] at hRound
    cases hRound
    exact ⟨Nat.lt_succ_self _, h⟩
  · rw [if_neg hSpace] at hRound
    have finds := finds_tokenAt h
    cases hToken : tokenAt text place h with
    | error fault =>
        rw [hToken] at hRound
        cases hRound
    | ok found =>
        rw [hToken] at hRound finds
        cases hRound
        exact finds.advances

end Round

/-! ## All rounds -/

/-- The loop ends after as many rounds as there are characters left, with what is listed of them. -/
theorem rounds_eq (text : List Char) (n place : Nat) (tokens : List Token)
    (hRounds : text.length ≤ place + n) :
    rounds text n place tokens = some ((listOf (text.drop place)).map (tokens ++ ·)) := by
  induction n generalizing place tokens with
  | zero =>
      have outside : ¬ place < text.length := by omega
      rw [rounds, if_neg outside, List.drop_of_length_le (Nat.le_of_not_lt outside), listOf]
      exact congrArg (some ∘ Except.ok) (List.append_nil tokens).symm
  | succ n ih =>
      rw [rounds]
      by_cases inside : place < text.length
      · rw [dif_pos inside, List.drop_eq_getElem_cons inside, listOf, round]
        by_cases hSpace : text[place] = ' '
        · rw [if_pos hSpace, if_pos hSpace]
          change rounds text n (place + 1) (tokens ++ []) = _
          rw [List.append_nil, ih (place + 1) tokens (by omega)]
        · rw [if_neg hSpace, if_neg hSpace]
          have finds := finds_tokenAt inside
          generalize tokenAt text place inside = result at finds ⊢
          generalize scan text[place] (text.drop (place + 1)) = scanned at finds ⊢
          cases finds with
          | failed fault => rfl
          | found token next later within _ =>
              change rounds text n next (tokens ++ [token]) = _
              rw [ih next _ (by omega)]
              cases hOthers : listOf (text.drop next) with
              | error fault => simp [hOthers, bind, Except.bind, Except.map]
              | ok others => simp [hOthers, bind, Except.bind, Except.map, pure, Except.pure]
      · rw [dif_neg inside, List.drop_of_length_le (Nat.le_of_not_lt inside), listOf]
        exact congrArg (some ∘ Except.ok) (List.append_nil tokens).symm

end BoundaryLog.Token
