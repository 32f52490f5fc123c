import BoundaryLog.Proofs.Statements

/-! # What is written and cannot be read back

A fault inside of an expression is the fault of the whole: what stands before it has been read, and
nothing after it is looked at.  The one thing that a predicate can be written with and not be read
back is a restriction of the type that names no type, since a text must stand behind the opening
bracket.  So a written program is read as its statement or refused, and then always for that. -/
set_option autoImplicit false
namespace BoundaryLog
namespace Clause

theorem bind_eq_error {α β : Type} {first : Except Fault α} {next : α → Except Fault β}
    {fault : Fault} (h : first = .error fault) : (first >>= next) = .error fault := by
  rw [h]
  rfl

/-- What is read first is followed by a fault. -/
theorem Reads.bind_eq_error {α β : Type} {n m : Nat} {first : Except Fault (Parsed α n)}
    {next : Parsed α n → Except Fault (Parsed β m)} {a : α} {middle : List Token} {fault : Fault}
    (hFirst : Reads first a middle) (hNext : ∀ h, next ⟨a, middle, h⟩ = .error fault) :
    (first >>= next) = .error fault := by
  obtain ⟨⟨_, _, h⟩, rfl, rfl, rfl⟩ := hFirst
  exact hNext h

section Faults
variable {total : Nat} {fault : Fault}

theorem condition_eq_error_of_simple {t : Token} {tokens : List Token} (hNot : t ≠ .word "NOT")
    (h : simple total t tokens = .error fault) : condition total (t :: tokens) = .error fault := by
  rw [condition, if_neg hNot]
  exact h

theorem condition_not_eq_error {tokens : List Token} (h : condition total tokens = .error fault) :
    condition total (.word "NOT" :: tokens) = .error fault := by
  rw [condition, if_pos rfl]
  exact bind_eq_error h

theorem condition_parenthesized_eq_error {tokens : List Token}
    (hStart : tokens.head? ≠ some (.word "e.id"))
    (h : alternatives total tokens = .error fault) :
    condition total (.openParen :: tokens) = .error fault := by
  apply condition_eq_error_of_simple (by decide)
  rw [simple, if_neg hStart]
  exact bind_eq_error h

/-- No text stands between the brackets. -/
theorem condition_noTypes (rest : List Token) :
    condition total (.openBracket :: .closeBracket :: rest) =
      .error (.expectedText .closeBracket) := by
  apply condition_eq_error_of_simple (by decide)
  rw [simple]
  rfl

theorem moreConditions_eq_error {left : Formula} {tokens : List Token}
    (h : condition total tokens = .error fault) :
    moreConditions total left (.word "AND" :: tokens) = .error fault := by
  rw [moreConditions, if_pos rfl]
  exact bind_eq_error h

theorem moreConditions_eq_error_later {left right : Formula} {tokens middle : List Token}
    (hRight : Reads (condition total tokens) right middle)
    (h : moreConditions total (.and left right) middle = .error fault) :
    moreConditions total left (.word "AND" :: tokens) = .error fault := by
  rw [moreConditions, if_pos rfl]
  exact hRight.bind_eq_error fun _ => bind_eq_error h

theorem conditions_eq_error {tokens : List Token} (h : condition total tokens = .error fault) :
    conditions total tokens = .error fault := by
  rw [conditions]
  exact bind_eq_error h

theorem conditions_eq_error_later {first : Formula} {tokens middle : List Token}
    (hFirst : Reads (condition total tokens) first middle)
    (h : moreConditions total first middle = .error fault) :
    conditions total tokens = .error fault := by
  rw [conditions]
  exact hFirst.bind_eq_error fun _ => bind_eq_error h

theorem moreAlternatives_eq_error {left : Formula} {tokens : List Token}
    (h : conditions total tokens = .error fault) :
    moreAlternatives total left (.word "OR" :: tokens) = .error fault := by
  rw [moreAlternatives, if_pos rfl]
  exact bind_eq_error h

theorem moreAlternatives_eq_error_later {left right : Formula} {tokens middle : List Token}
    (hRight : Reads (conditions total tokens) right middle)
    (h : moreAlternatives total (.or left right) middle = .error fault) :
    moreAlternatives total left (.word "OR" :: tokens) = .error fault := by
  rw [moreAlternatives, if_pos rfl]
  exact hRight.bind_eq_error fun _ => bind_eq_error h

theorem alternatives_eq_error {tokens : List Token} (h : conditions total tokens = .error fault) :
    alternatives total tokens = .error fault := by
  rw [alternatives]
  exact bind_eq_error h

theorem alternatives_eq_error_later {first : Formula} {tokens middle : List Token}
    (hFirst : Reads (conditions total tokens) first middle)
    (h : moreAlternatives total first middle = .error fault) :
    alternatives total tokens = .error fault := by
  rw [alternatives]
  exact hFirst.bind_eq_error fun _ => bind_eq_error h

theorem alternatives_eq_error_of_condition {tokens : List Token}
    (h : condition total tokens = .error fault) : alternatives total tokens = .error fault :=
  alternatives_eq_error (conditions_eq_error h)

end Faults
end Clause

namespace Predicate
section Refusing
open Clause
variable {total : Nat}

/-- Whether reading a predicate stops where a type is missing, whatever follows. -/
def Refused (total : Nat) (p : Predicate) : Prop :=
  ∀ rest, alternatives total (p.tokens ++ rest) = .error (.expectedText .closeBracket)

theorem Refused.enclosed {p : Predicate} (h : Refused total p) (rest : List Token) :
    condition total (Token.enclosed p.tokens ++ rest) = .error (.expectedText .closeBracket) := by
  have split : Token.enclosed p.tokens ++ rest = .openParen :: (p.tokens ++ .closeParen :: rest) := by
    simp [Token.enclosed]
  rw [split]
  exact condition_parenthesized_eq_error (head?_tokens_append p _) (h _)

/-- If some operand is refused, the first one is, or it is read and one behind it is refused. -/
theorem refused_or_later {p : Predicate} {ps : List Predicate}
    (hEach : ∀ q ∈ p :: ps, ReadBack total q ∨ Refused total q)
    (hSome : ∃ q ∈ p :: ps, Refused total q) :
    Refused total p ∨
      ReadBack total p ∧ (∀ q ∈ ps, ReadBack total q ∨ Refused total q) ∧
        ∃ q ∈ ps, Refused total q := by
  have others := fun q hq => hEach q (List.mem_cons_of_mem p hq)
  rcases hEach p List.mem_cons_self with read | refused
  · obtain ⟨q, hq, refused⟩ := hSome
    rcases List.mem_cons.1 hq with rfl | hLater
    · exact Or.inl refused
    · exact Or.inr ⟨read, others, q, hLater, refused⟩
  · exact Or.inl refused

/-- An operand that is read and has another alternative behind it is all of its own alternative. -/
theorem reads_conditions_before_links {p : Predicate} (hRead : ReadBack total p)
    {ps : List Predicate} (hLater : ∃ q ∈ ps, Refused total q) (rest : List Token) :
    Reads (conditions total (Token.enclosed p.tokens ++ (linkTokens "OR" ps ++ rest))) p.formula
      (linkTokens "OR" ps ++ rest) := by
  refine reads_conditions (hRead.enclosed _) (reads_moreConditions_end p.formula _ ?_)
  cases ps with
  | nil => exact absurd hLater (by simp)
  | cons q qs =>
      rw [linkTokens_cons_append]
      simp

section Operands
variable {ps : List Predicate} (hEach : ∀ p ∈ ps, ReadBack total p ∨ Refused total p)
  (hSome : ∃ p ∈ ps, Refused total p)
include hEach hSome

/-- Of further conditions, the first one that is refused stops the reading. -/
theorem moreConditions_links_eq_error (left : Formula) (rest : List Token) :
    moreConditions total left (linkTokens "AND" ps ++ rest) =
      .error (.expectedText .closeBracket) := by
  induction ps generalizing left with
  | nil => exact absurd hSome (by simp)
  | cons p ps ih =>
      rw [linkTokens_cons_append]
      rcases refused_or_later hEach hSome with refused | ⟨read, others, later⟩
      · exact moreConditions_eq_error (refused.enclosed _)
      · exact moreConditions_eq_error_later (read.enclosed _) (ih others later _)

theorem conditions_chain_eq_error (rest : List Token) :
    conditions total (Token.chain "AND" (ps.map tokens) ++ rest) =
      .error (.expectedText .closeBracket) := by
  cases ps with
  | nil => exact absurd hSome (by simp)
  | cons p ps =>
      rw [chain_cons_append]
      rcases refused_or_later hEach hSome with refused | ⟨read, others, later⟩
      · exact conditions_eq_error (refused.enclosed _)
      · exact conditions_eq_error_later (read.enclosed _)
          (moreConditions_links_eq_error others later _ rest)

theorem moreAlternatives_links_eq_error (left : Formula) (rest : List Token) :
    moreAlternatives total left (linkTokens "OR" ps ++ rest) =
      .error (.expectedText .closeBracket) := by
  induction ps generalizing left with
  | nil => exact absurd hSome (by simp)
  | cons p ps ih =>
      rw [linkTokens_cons_append]
      rcases refused_or_later hEach hSome with refused | ⟨read, others, later⟩
      · exact moreAlternatives_eq_error (conditions_eq_error (refused.enclosed _))
      · have alternative := reads_conditions_before_links read later rest
        exact moreAlternatives_eq_error_later alternative (ih others later _)

theorem alternatives_chain_eq_error (rest : List Token) :
    alternatives total (Token.chain "OR" (ps.map tokens) ++ rest) =
      .error (.expectedText .closeBracket) := by
  cases ps with
  | nil => exact absurd hSome (by simp)
  | cons p ps =>
      rw [chain_cons_append]
      rcases refused_or_later hEach hSome with refused | ⟨read, others, later⟩
      · exact alternatives_eq_error (conditions_eq_error (refused.enclosed _))
      · have alternative := reads_conditions_before_links read later rest
        exact alternatives_eq_error_later alternative
          (moreAlternatives_links_eq_error others later _ rest)

end Operands

/-- Among operands, one that names no types is refused and the others are not. -/
theorem readBack_or_refused {ps : List Predicate}
    (ih : ∀ p ∈ ps, ¬ p.NamesTypes → Refused total p) : ∀ p ∈ ps, ReadBack total p ∨ Refused total p := by
  intro p hp
  by_cases hTypes : p.NamesTypes
  · exact Or.inl (p.readBack_of_namesTypes hTypes)
  · exact Or.inr (ih p hp hTypes)

theorem exists_refused {ps : List Predicate} (ih : ∀ p ∈ ps, ¬ p.NamesTypes → Refused total p)
    (hTypes : ¬ ∀ p ∈ ps, p.NamesTypes) : ∃ p ∈ ps, Refused total p := by
  obtain ⟨p, hp⟩ := Classical.not_forall.1 hTypes
  obtain ⟨hMem, hTypes⟩ := Classical.not_imp.1 hp
  exact ⟨p, hMem, ih p hMem hTypes⟩

/-- What keeps a predicate from being read back is the first restriction without types. -/
theorem refused_of_not_namesTypes (p : Predicate) (hTypes : ¬ p.NamesTypes) : Refused total p := by
  induction p with
  | always => exact absurd trivial hTypes
  | typeIn types =>
      obtain rfl : types = [] := Classical.not_not.1 hTypes
      intro rest
      exact alternatives_eq_error_of_condition (condition_noTypes _)
  | hasTag tag => exact absurd trivial hTypes
  | position comparison bound => exact absurd trivial hTypes
  | and operands ih =>
      rw [NamesTypes, allNameTypes_iff] at hTypes
      intro rest
      rw [tokens, tokensAll_eq_map]
      cases operands with
      | nil => exact absurd hTypes (by simp)
      | cons p others =>
          cases others with
          | nil => exact ih p List.mem_cons_self (by simpa using hTypes) rest
          | cons q ps =>
              exact alternatives_eq_error
                (conditions_chain_eq_error (readBack_or_refused ih) (exists_refused ih hTypes) rest)
  | or operands ih =>
      rw [NamesTypes, allNameTypes_iff] at hTypes
      intro rest
      rw [tokens, tokensAll_eq_map]
      cases operands with
      | nil => exact absurd hTypes (by simp)
      | cons p others =>
          cases others with
          | nil => exact ih p List.mem_cons_self (by simpa using hTypes) rest
          | cons q ps =>
              exact alternatives_chain_eq_error (readBack_or_refused ih) (exists_refused ih hTypes)
                rest
  | not operand ih =>
      intro rest
      rw [tokens, List.cons_append]
      exact alternatives_eq_error_of_condition
        (condition_not_eq_error (Refused.enclosed (ih hTypes) rest))

end Refusing
end Predicate

namespace Statement
section Filter
variable (p : Predicate) (ps : List Predicate)
  (hQuotes : ∀ s ∈ Predicate.quotationsOfAll (p :: ps), '"' ∉ s.toList)
include hQuotes

theorem readClause_clauseText_refused (hTypes : ¬ ∀ q ∈ p :: ps, q.NamesTypes) :
    readClause (clauseText (p :: ps)) = .error (.badExpression (.expectedText .closeBracket)) := by
  have each : ∀ q ∈ p :: ps, ¬ q.NamesTypes → q.Refused
      (Token.chain "AND" ((p :: ps).map Predicate.tokens)).length :=
    fun q _ => q.refused_of_not_namesTypes
  have refused := Clause.alternatives_eq_error (Predicate.conditions_chain_eq_error
    (Predicate.readBack_or_refused each) (Predicate.exists_refused each hTypes) [])
  rw [List.append_nil] at refused
  have tokens : (Token.listOf (clauseText (p :: ps))).mapError Fault.badToken =
      .ok (Token.chain "AND" ((p :: ps).map Predicate.tokens)) := by
    rw [listOf_clauseText p ps hQuotes]
    rfl
  have parse : (Clause.parse (Token.chain "AND" ((p :: ps).map Predicate.tokens))).mapError
      Fault.badExpression = .error (.badExpression (.expectedText .closeBracket)) := by
    rw [Clause.parse, refused]
    rfl
  unfold readClause
  simp only [tokens, parse, bind, Except.bind]

end Filter

/-- A written program with a restriction of the type that names no type is refused for it. -/
theorem ofText_written_refused (program : Program)
    (hQuotes : ∀ s ∈ Predicate.quotationsOfAll program.filters, '"' ∉ s.toList)
    (hTypes : ¬ ∀ p ∈ program.filters, p.NamesTypes) :
    ofText program.written = .error (.badExpression (.expectedText .closeBracket)) := by
  rw [ofText_eq_bind, partsOf_written]
  obtain ⟨filters, descending, top, projection⟩ := program
  cases filters with
  | nil => exact absurd hTypes (by simp)
  | cons p ps =>
      have clause := readClause_clauseText_refused p ps hQuotes hTypes
      simp only [Except.bind, Parts.statement, clause?, clause]
      rfl

end Statement
end BoundaryLog
