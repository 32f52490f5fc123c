import BoundaryLog.Clause.Token
import BoundaryLog.Proofs.Texts

/-! # Listing the tokens of a text piece by piece

Each lemma puts one piece of text in front of a text whose tokens are known.  A number or a word
goes on as long as it can, so it must stand apart from what follows; every other token ends by
itself. -/
set_option autoImplicit false
namespace BoundaryLog.Token

/-- Whether a text does not carry on a number or a word before it. -/
def Apart (cs : List Char) : Prop :=
  ∀ c ∈ cs.head?, Char.isDigit c = false ∧ isWordChar c = false

theorem apart_nil : Apart [] := by
  intro c hc
  cases hc

theorem apart_cons (c : Char) (cs : List Char) (h : c.isDigit = false ∧ isWordChar c = false) :
    Apart (c :: cs) := by
  intro d hd
  cases hd
  exact h

theorem apart_space (cs : List Char) : Apart (' ' :: cs) := apart_cons ' ' cs (by decide)

theorem apart_closeParen (cs : List Char) : Apart (')' :: cs) := apart_cons ')' cs (by decide)

theorem Apart.append {front rest : List Char} (hFront : Apart front) (hRest : Apart rest) :
    Apart (front ++ rest) := by
  cases front with
  | nil => exact hRest
  | cons c front => exact apart_cons c _ (hFront c rfl)

/-- Whether a text, given by its first character and the others, starts with a token. -/
def Scans (c : Char) (cs : List Char) (token : Token) (rest : List Char) : Prop :=
  ∃ first, scan c cs = .ok first ∧ first.token = token ∧ first.rest = rest

section Pieces
variable {rest : List Char} {tokens : List Token}

theorem listOf_space (cs : List Char) : listOf (' ' :: cs) = listOf cs := by
  rw [listOf, if_pos rfl]

theorem listOf_of_scans {c : Char} {cs : List Char} {token : Token} (hSpace : c ≠ ' ')
    (hScan : Scans c cs token rest) (hRest : listOf rest = .ok tokens) :
    listOf (c :: cs) = .ok (token :: tokens) := by
  obtain ⟨first, hFirst, rfl, hEnd⟩ := hScan
  rw [listOf, if_neg hSpace, hFirst]
  simp only [bind, Except.bind, hEnd, hRest]
  rfl

theorem listOf_single (c : Char) (token : Token) (hToken : single? c = some token)
    (hRest : listOf rest = .ok tokens) : listOf (c :: rest) = .ok (token :: tokens) := by
  have hSpace : c ≠ ' ' := by
    rintro rfl
    cases hToken
  have hScan : Scans c rest token rest := by
    unfold Scans scan
    rw [hToken]
    exact ⟨_, rfl, rfl, rfl⟩
  exact listOf_of_scans hSpace hScan hRest

/-- A quoted text without a quote in it. -/
theorem listOf_text (s : String) (hQuote : '"' ∉ s.toList) (hRest : listOf rest = .ok tokens) :
    listOf ('"' :: (s.toList ++ '"' :: rest)) = .ok (.text s :: tokens) := by
  obtain ⟨hTake, hDrop⟩ := Text.span_append (p := (· != '"')) s.toList ('"' :: rest)
    (by intro c hc; exact bne_iff_ne.2 fun h => hQuote (h ▸ hc)) (by intro c hc; cases hc; rfl)
  have hScan : Scans '"' (s.toList ++ '"' :: rest) (.text s) rest := by
    have hDispatch : scan '"' (s.toList ++ '"' :: rest) = scanText (s.toList ++ '"' :: rest) := rfl
    unfold Scans
    rw [hDispatch]
    unfold scanText
    split
    · next h => rw [hDrop] at h; cases h
    · next c others h =>
        rw [hDrop] at h
        cases h
        exact ⟨_, rfl, by simp only [hTake, String.ofList_toList], rfl⟩
  exact listOf_of_scans (by decide) hScan hRest

theorem scan_of_isDigit (c : Char) (cs : List Char) (hDigit : c.isDigit = true) :
    scan c cs = scanNumber c cs := by
  have h : single? c = none ∧ operators? c = none ∧ c ≠ '"' := by
    refine ⟨?_, ?_, ?_⟩
    · unfold single?
      split <;> first | rfl | exact absurd hDigit (by decide)
    · unfold operators?
      split <;> first | rfl | exact absurd hDigit (by decide)
    · rintro rfl
      exact absurd hDigit (by decide)
  unfold scan
  simp only [h.1, h.2.1, if_neg h.2.2, if_pos hDigit]

theorem listOf_number (n : Count) (hApart : Apart rest) (hRest : listOf rest = .ok tokens) :
    listOf (n.text.toList ++ rest) = .ok (.number n :: tokens) := by
  have hDigits := Text.isDigit_of_mem_countText n
  have hRead := Text.readDigits_countText n
  cases hText : n.text.toList with
  | nil => exact absurd hText (Text.countText_ne_nil n)
  | cons c cs =>
      rw [hText] at hDigits hRead
      have hc : c.isDigit = true := hDigits c (List.mem_cons_self ..)
      obtain ⟨hTake, hDrop⟩ := Text.span_append (p := Char.isDigit) cs rest
        (fun d hd => hDigits d (List.mem_cons_of_mem c hd)) (fun d hd => (hApart d hd).1)
      have hScan : Scans c (cs ++ rest) (.number n) rest := by
        unfold Scans
        rw [scan_of_isDigit c _ hc]
        unfold scanNumber
        rw [hTake, hRead]
        exact ⟨_, rfl, rfl, hDrop⟩
      have hSpace : c ≠ ' ' := by
        rintro rfl
        exact absurd hc (by decide)
      exact listOf_of_scans hSpace hScan hRest

/-- Whether a text is scanned as one word: its first character starts no other token. -/
def IsWord : List Char → Prop
  | [] => False
  | c :: cs =>
      c ≠ ' ' ∧ single? c = none ∧ operators? c = none ∧ c ≠ '"' ∧ c.isDigit = false ∧
        Text.isAlphabetic c = true ∧ cs.all isWordChar = true

instance : (cs : List Char) → Decidable (IsWord cs)
  | [] => inferInstanceAs (Decidable False)
  | c :: cs => inferInstanceAs (Decidable (c ≠ ' ' ∧ single? c = none ∧ operators? c = none ∧
      c ≠ '"' ∧ c.isDigit = false ∧ Text.isAlphabetic c = true ∧ cs.all isWordChar = true))

theorem listOf_word (w : String) (hWord : IsWord w.toList) (hApart : Apart rest)
    (hRest : listOf rest = .ok tokens) :
    listOf (w.toList ++ rest) = .ok (.word w :: tokens) := by
  cases hText : w.toList with
  | nil => rw [hText] at hWord; exact hWord.elim
  | cons c cs =>
      rw [hText] at hWord
      obtain ⟨hSpace, hSingle, hOperator, hQuote, hDigit, hLetter, hWordChars⟩ := hWord
      obtain ⟨hTake, hDrop⟩ := Text.span_append (p := isWordChar) cs rest (List.all_eq_true.1 hWordChars)
        (fun d hd => (hApart d hd).2)
      have hScan : Scans c (cs ++ rest) (.word w) rest := by
        unfold Scans scan
        simp only [hSingle, hOperator, if_neg hQuote, hDigit, Bool.false_eq_true, if_false, hLetter,
          if_true]
        refine ⟨_, rfl, ?_, hDrop⟩
        unfold scanWord
        simp only [hTake, ← hText, String.ofList_toList]
      exact listOf_of_scans hSpace hScan hRest

/-- A comparison sign with a space after it. -/
theorem listOf_operator (operator : Operator) (hRest : listOf rest = .ok tokens) :
    listOf (operator.symbol.toList ++ ' ' :: rest) = .ok (.op operator :: tokens) := by
  have hSpaced : listOf (' ' :: rest) = .ok tokens := by rw [listOf_space, hRest]
  cases operator with
  | less => exact listOf_of_scans (c := '<') (by decide) ⟨_, rfl, rfl, rfl⟩ hSpaced
  | atMost => exact listOf_of_scans (c := '<') (by decide) ⟨_, rfl, rfl, rfl⟩ hSpaced
  | greater => exact listOf_of_scans (c := '>') (by decide) ⟨_, rfl, rfl, rfl⟩ hSpaced
  | atLeast => exact listOf_of_scans (c := '>') (by decide) ⟨_, rfl, rfl, rfl⟩ hSpaced
  | equal => exact listOf_of_scans (c := '=') (by decide) ⟨_, rfl, rfl, rfl⟩ hSpaced
  | doubleEqual => exact listOf_of_scans (c := '=') (by decide) ⟨_, rfl, rfl, rfl⟩ hSpaced

end Pieces

/-! ## Texts that spell tokens -/

/-- Whether a text has the given tokens wherever nothing carries it on. -/
def Spells (cs : List Char) (tokens : List Token) : Prop :=
  ∀ (rest : List Char) (others : List Token), Apart rest → listOf rest = .ok others →
    listOf (cs ++ rest) = .ok (tokens ++ others)

theorem Spells.listOf_eq {cs : List Char} {tokens : List Token} (h : Spells cs tokens) :
    listOf cs = .ok tokens := by
  have whole := h [] [] apart_nil (by rw [listOf])
  rwa [List.append_nil, List.append_nil] at whole

theorem spells_nil : Spells [] [] := fun _ _ _ hRest => hRest

theorem Spells.append {front back : List Char} {first second : List Token}
    (hFront : Spells front first) (hBack : Spells back second) (hApart : Apart back) :
    Spells (front ++ back) (first ++ second) := by
  intro rest others hRest hOthers
  rw [List.append_assoc, List.append_assoc]
  exact hFront _ _ (hApart.append hRest) (hBack rest others hRest hOthers)

theorem Spells.space_cons {cs : List Char} {tokens : List Token} (h : Spells cs tokens) :
    Spells (' ' :: cs) tokens := by
  intro rest others hApart hRest
  rw [List.cons_append, listOf_space]
  exact h rest others hApart hRest

theorem spells_word (w : String) (hWord : IsWord w.toList) : Spells w.toList [.word w] :=
  fun _ _ hApart hRest => listOf_word w hWord hApart hRest

/-- Tokens between parentheses. -/
def enclosed (tokens : List Token) : List Token := .openParen :: (tokens ++ [.closeParen])

theorem Spells.enclosed {cs : List Char} {tokens : List Token} (h : Spells cs tokens) :
    Spells ('(' :: (cs ++ [')'])) (enclosed tokens) := by
  intro rest others hApart hRest
  have hClose : listOf (')' :: rest) = .ok (.closeParen :: others) := listOf_single ')' _ rfl hRest
  have hInner := h (')' :: rest) _ (apart_closeParen rest) hClose
  have hAll := listOf_single '(' .openParen rfl hInner
  simpa [Token.enclosed] using hAll

/-- Tokens in parentheses with a word between each two. -/
def chain (connective : String) : List (List Token) → List Token
  | [] => []
  | tokens :: more => enclosed tokens ++ more.flatMap fun ts => .word connective :: enclosed ts

end BoundaryLog.Token
