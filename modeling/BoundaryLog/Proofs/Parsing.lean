import BoundaryLog.Clause.Reading

/-! # Reading expressions step by step

The functions that read an expression return what is left of the tokens together with a proof that
it is shorter.  `Reads` speaks of the value and the rest alone.  For each function there is one
lemma for each way in which it succeeds; the recursion itself is not opened anywhere else. -/
set_option autoImplicit false
namespace BoundaryLog.Clause

/-- Whether a value was read, with the given tokens left. -/
def Reads {α : Type} {bound : Nat} (result : Except Fault (Parsed α bound)) (value : α)
    (rest : List Token) : Prop :=
  ∃ parsed, result = .ok parsed ∧ parsed.value = value ∧ parsed.rest = rest

/-- What is read first can be followed by another reading of what is left. -/
theorem Reads.bind {α β : Type} {n m : Nat} {first : Except Fault (Parsed α n)}
    {next : Parsed α n → Except Fault (Parsed β m)} {a : α} {b : β} {middle rest : List Token}
    (hFirst : Reads first a middle)
    (hNext : ∀ h, Reads (next ⟨a, middle, h⟩) b rest) : Reads (first >>= next) b rest := by
  obtain ⟨⟨_, _, h⟩, rfl, rfl, rfl⟩ := hFirst
  exact hNext h

/-- The rest of a reading is changed by no bound. -/
theorem Reads.within {α : Type} {small large : Nat} {result : Except Fault (Parsed α small)}
    {a : α} {rest : List Token} (h : small ≤ large) (hReads : Reads result a rest) :
    Reads (do let parsed ← result; return parsed.within large h) a rest := by
  obtain ⟨parsed, rfl, hValue, hRest⟩ := hReads
  exact ⟨parsed.within large h, rfl, hValue, hRest⟩

/-! ## Fixed tokens and tests -/

theorem reads_expectAll (tokens rest : List Token) :
    Reads (expectAll tokens (tokens ++ rest)) () rest := by
  induction tokens with
  | nil =>
      refine ⟨⟨(), rest, Nat.lt_succ_self _⟩, ?_, rfl, rfl⟩
      cases rest <;> rfl
  | cons token tokens ih =>
      rw [List.cons_append, expectAll, if_pos rfl]
      exact ih.within _

theorem reads_positionTest (operator : Operator) (bound : Count) (rest : List Token) :
    Reads (positionTest (positionTokens ++ .op operator :: .number bound :: rest))
      (.position operator bound) rest := by
  unfold positionTest
  refine (reads_expectAll positionTokens _).bind ?_
  intro h
  exact ⟨_, rfl, rfl, rfl⟩

/-- The tokens of quoted texts with commas between them. -/
def textTokens : List String → List Token
  | [] => []
  | [s] => [.text s]
  | s :: t :: more => .text s :: .comma :: textTokens (t :: more)

theorem reads_texts (types : List String) (rest : List Token) (hNonempty : types ≠ []) :
    Reads (texts (textTokens types ++ .closeBracket :: rest)) types rest := by
  induction types with
  | nil => exact absurd rfl hNonempty
  | cons s more ih =>
      cases more with
      | nil => exact ⟨_, rfl, rfl, rfl⟩
      | cons t more =>
          obtain ⟨parsed, hParsed, hValue, hRest⟩ := ih (List.cons_ne_nil t more)
          simp only [textTokens, List.cons_append, texts]
          rw [hParsed]
          exact ⟨_, rfl, congrArg (s :: ·) hValue, hRest⟩

theorem reads_typeTest (types : List String) (rest : List Token) (hNonempty : types ≠ []) :
    Reads (typeTest (textTokens types ++ .closeBracket :: .word "CONTAINS" :: .word "e.type" :: rest))
      (.typeIn types) rest := by
  unfold typeTest
  refine (reads_texts types _ hNonempty).bind ?_
  intro h
  refine (reads_expectAll [.word "CONTAINS", .word "e.type"] rest).bind ?_
  intro h'
  exact ⟨_, rfl, rfl, rfl⟩

theorem reads_tagTest (s : String) (rest : List Token) :
    Reads (tagTest (.word "CONTAINS" :: .text s :: rest)) (.hasTag s) rest := by
  unfold tagTest
  refine (reads_expectAll [.word "CONTAINS"] (.text s :: rest)).bind ?_
  intro h
  exact ⟨_, rfl, rfl, rfl⟩

/-! ## Conditions -/

section Steps
variable {total : Nat}

theorem reads_condition_of_simple {t : Token} {tokens rest : List Token} {e : Formula}
    (hNot : t ≠ .word "NOT") (h : Reads (simple total t tokens) e rest) :
    Reads (condition total (t :: tokens)) e rest := by
  rw [condition, if_neg hNot]
  exact h

theorem reads_condition_not {tokens rest : List Token} {e : Formula}
    (h : Reads (condition total tokens) e rest) :
    Reads (condition total (.word "NOT" :: tokens)) (.not e) rest := by
  rw [condition, if_pos rfl]
  refine h.bind ?_
  intro hShorter
  exact ⟨_, rfl, rfl, rfl⟩

theorem reads_condition_constant (value : Bool) (rest : List Token) :
    Reads (condition total (.word (if value then "true" else "false") :: rest)) (.constant value)
      rest := by
  cases value with
  | true =>
      apply reads_condition_of_simple (by decide)
      rw [simple]
      exact ⟨_, rfl, rfl, rfl⟩
  | false =>
      apply reads_condition_of_simple (by decide)
      rw [simple]
      exact ⟨_, rfl, rfl, rfl⟩

theorem reads_condition_tag (s : String) (rest : List Token) :
    Reads (condition total (.word "e.data.tags" :: .word "CONTAINS" :: .text s :: rest)) (.hasTag s)
      rest := by
  apply reads_condition_of_simple (by decide)
  rw [simple, if_pos rfl]
  exact reads_tagTest s rest

theorem reads_condition_types (types : List String) (rest : List Token) (hNonempty : types ≠ []) :
    Reads (condition total (.openBracket :: (textTokens types ++
      .closeBracket :: .word "CONTAINS" :: .word "e.type" :: rest))) (.typeIn types) rest := by
  apply reads_condition_of_simple (by decide)
  rw [simple]
  exact reads_typeTest types rest hNonempty

theorem reads_condition_position (operator : Operator) (bound : Count) (rest : List Token) :
    Reads (condition total
      (.openParen :: (positionTokens ++ .op operator :: .number bound :: rest)))
      (.position operator bound) rest := by
  apply reads_condition_of_simple (by decide)
  have hStart : (positionTokens ++ .op operator :: .number bound :: rest).head? =
      some (.word "e.id") := rfl
  rw [simple, if_pos hStart]
  exact reads_positionTest operator bound rest

/-- An expression in parentheses; the position of an event starts otherwise. -/
theorem reads_condition_parenthesized {tokens rest : List Token} {e : Formula}
    (hStart : tokens.head? ≠ some (.word "e.id"))
    (h : Reads (alternatives total tokens) e (.closeParen :: rest)) :
    Reads (condition total (.openParen :: tokens)) e rest := by
  apply reads_condition_of_simple (by decide)
  rw [simple, if_neg hStart]
  refine h.bind ?_
  intro hInner
  refine (reads_expectAll [.closeParen] rest).bind ?_
  intro hClose
  exact ⟨_, rfl, rfl, rfl⟩

/-! ## Chains of conditions and of alternatives -/

theorem reads_moreConditions_end (left : Formula) (rest : List Token)
    (h : rest.head? ≠ some (.word "AND")) :
    Reads (moreConditions total left rest) left rest := by
  cases rest with
  | nil =>
      rw [moreConditions]
      exact ⟨_, rfl, rfl, rfl⟩
  | cons t rest =>
      have ht : t ≠ .word "AND" := fun e => h (congrArg some e)
      rw [moreConditions, if_neg ht]
      exact ⟨_, rfl, rfl, rfl⟩

theorem reads_moreConditions_and {left right e : Formula} {tokens middle rest : List Token}
    (hRight : Reads (condition total tokens) right middle)
    (hMore : Reads (moreConditions total (.and left right) middle) e rest) :
    Reads (moreConditions total left (.word "AND" :: tokens)) e rest := by
  rw [moreConditions, if_pos rfl]
  refine hRight.bind ?_
  intro hShorter
  exact hMore.within _

theorem reads_conditions {first e : Formula} {tokens middle rest : List Token}
    (hFirst : Reads (condition total tokens) first middle)
    (hMore : Reads (moreConditions total first middle) e rest) :
    Reads (conditions total tokens) e rest := by
  rw [conditions]
  refine hFirst.bind ?_
  intro hShorter
  exact hMore.within _

theorem reads_moreAlternatives_end (left : Formula) (rest : List Token)
    (h : rest.head? ≠ some (.word "OR")) :
    Reads (moreAlternatives total left rest) left rest := by
  cases rest with
  | nil =>
      rw [moreAlternatives]
      exact ⟨_, rfl, rfl, rfl⟩
  | cons t rest =>
      have ht : t ≠ .word "OR" := fun e => h (congrArg some e)
      rw [moreAlternatives, if_neg ht]
      exact ⟨_, rfl, rfl, rfl⟩

theorem reads_moreAlternatives_or {left right e : Formula} {tokens middle rest : List Token}
    (hRight : Reads (conditions total tokens) right middle)
    (hMore : Reads (moreAlternatives total (.or left right) middle) e rest) :
    Reads (moreAlternatives total left (.word "OR" :: tokens)) e rest := by
  rw [moreAlternatives, if_pos rfl]
  refine hRight.bind ?_
  intro hShorter
  exact hMore.within _

theorem reads_alternatives {first e : Formula} {tokens middle rest : List Token}
    (hFirst : Reads (conditions total tokens) first middle)
    (hMore : Reads (moreAlternatives total first middle) e rest) :
    Reads (alternatives total tokens) e rest := by
  rw [alternatives]
  refine hFirst.bind ?_
  intro hShorter
  exact hMore.within _

/-- Whether an expression can end before the given tokens. -/
def Ends (rest : List Token) : Prop :=
  rest.head? ≠ some (.word "AND") ∧ rest.head? ≠ some (.word "OR")

theorem ends_closeParen (rest : List Token) : Ends (.closeParen :: rest) := ⟨nofun, nofun⟩

/-- A single condition is an expression. -/
theorem reads_alternatives_of_condition {e : Formula} {tokens rest : List Token}
    (h : Reads (condition total tokens) e rest) (hEnds : Ends rest) :
    Reads (alternatives total tokens) e rest :=
  reads_alternatives (reads_conditions h (reads_moreConditions_end e rest hEnds.1))
    (reads_moreAlternatives_end e rest hEnds.2)

end Steps
end BoundaryLog.Clause
