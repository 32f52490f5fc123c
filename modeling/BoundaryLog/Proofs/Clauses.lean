import BoundaryLog.Clause.Formula
import BoundaryLog.Proofs.Lexing
import BoundaryLog.Proofs.Parsing
import BoundaryLog.Proofs.Writing

/-! # A written predicate is read as what it means

`tokens` are the tokens of a written predicate and `formula` is the expression that they denote.
The printer drops the parentheses around a single operand and writes the identity for none; the
reader groups to the left.  Both are in `formula`, which has the value of the predicate at every
event.  The inductions go over the predicate: first that its text spells its tokens, whatever
stands between the quotes, then that its tokens are read as its formula. -/
set_option autoImplicit false
namespace BoundaryLog

/-- The sign of a comparison in a clause. -/
def Comparison.operator : Comparison → Operator
  | .greaterThan => .greater
  | .atLeast => .atLeast
  | .atMost => .atMost

theorem Comparison.symbol_operator (c : Comparison) : c.operator.symbol = c.symbol := by
  cases c <;> rfl

theorem Comparison.holds_operator (c : Comparison) (place bound : Nat) :
    c.operator.holds place bound = c.holds place bound := by
  cases c <;> rfl

/-! ## The expression of a predicate -/

namespace Formula

/-- Expressions that must all hold, grouped to the left. -/
def conjunction : List Formula → Formula
  | [] => .constant true
  | e :: es => es.foldl .and e

def disjunction : List Formula → Formula
  | [] => .constant false
  | e :: es => es.foldl .or e

section Value
variable (type : String) (tags : List String) (place : Nat)

theorem eval_foldl_and (es : List Formula) (left : Formula) :
    (es.foldl .and left).eval type tags place =
      (left.eval type tags place && es.all (eval type tags place)) := by
  induction es generalizing left with
  | nil => simp
  | cons e es ih => simp [ih, eval, Bool.and_assoc]

theorem eval_foldl_or (es : List Formula) (left : Formula) :
    (es.foldl .or left).eval type tags place =
      (left.eval type tags place || es.any (eval type tags place)) := by
  induction es generalizing left with
  | nil => simp
  | cons e es ih => simp [ih, eval, Bool.or_assoc]

theorem eval_conjunction (es : List Formula) :
    (conjunction es).eval type tags place = es.all (eval type tags place) := by
  cases es with
  | nil => rfl
  | cons e es => rw [conjunction, eval_foldl_and, List.all_cons]

theorem eval_disjunction (es : List Formula) :
    (disjunction es).eval type tags place = es.any (eval type tags place) := by
  cases es with
  | nil => rfl
  | cons e es => rw [disjunction, eval_foldl_or, List.any_cons]

end Value
end Formula

namespace Predicate

mutual

/-- The expression as which a written predicate is read. -/
def formula : Predicate → Formula
  | .always => .constant true
  | .typeIn types => .typeIn types
  | .hasTag tag => .hasTag tag
  | .position comparison bound => .position comparison.operator bound
  | .and operands => .conjunction (formulas operands)
  | .or operands => .disjunction (formulas operands)
  | .not operand => .not (formula operand)

def formulas : List Predicate → List Formula
  | [] => []
  | p :: ps => formula p :: formulas ps

end

theorem formulas_eq_map (ps : List Predicate) : formulas ps = ps.map formula := by
  induction ps with
  | nil => rfl
  | cons p ps ih => rw [formulas, ih, List.map_cons]

theorem eval_formula (type : String) (tags : List String) (place : Nat) (p : Predicate) :
    p.formula.eval type tags place = p.holds type tags place := by
  induction p with
  | always => rfl
  | typeIn types => rfl
  | hasTag tag => rfl
  | position comparison bound => exact comparison.holds_operator place bound.value
  | and operands ih =>
      rw [formula, Formula.eval_conjunction, formulas_eq_map, List.all_map, holds, holdsAll_eq_all,
        Bool.eq_iff_iff, List.all_eq_true, List.all_eq_true]
      exact forall_congr' fun p => forall_congr' fun hp => by rw [Function.comp, ih p hp]
  | or operands ih =>
      rw [formula, Formula.eval_disjunction, formulas_eq_map, List.any_map, holds, holdsSome_eq_any,
        Bool.eq_iff_iff, List.any_eq_true, List.any_eq_true]
      exact exists_congr fun p => and_congr_right fun hp => by rw [Function.comp, ih p hp]
  | not operand ih => rw [formula, Formula.eval, holds, ih]

/-! ## The tokens of a predicate -/

def connectedTokens (connective identity : String) : List (List Token) → List Token
  | [] => [.word identity]
  | [tokens] => tokens
  | operands => Token.chain connective operands

mutual

def tokens : Predicate → List Token
  | .always => [.word "true"]
  | .typeIn types =>
      .openBracket :: (Clause.textTokens types ++
        [.closeBracket, .word "CONTAINS", .word "e.type"])
  | .hasTag tag => [.word "e.data.tags", .word "CONTAINS", .text tag]
  | .position comparison bound =>
      .openParen :: (Clause.positionTokens ++ [.op comparison.operator, .number bound])
  | .and operands => connectedTokens "AND" "true" (tokensAll operands)
  | .or operands => connectedTokens "OR" "false" (tokensAll operands)
  | .not operand => .word "NOT" :: Token.enclosed (tokens operand)

def tokensAll : List Predicate → List (List Token)
  | [] => []
  | p :: ps => tokens p :: tokensAll ps

end

theorem tokensAll_eq_map (ps : List Predicate) : tokensAll ps = ps.map tokens := by
  induction ps with
  | nil => rfl
  | cons p ps ih => rw [tokensAll, ih, List.map_cons]

/-! ## The text of a predicate spells its tokens -/

theorem toList_parenthesized (s : String) :
    (parenthesized s).toList = '(' :: (s.toList ++ [')']) := by
  simp [parenthesized]

theorem toList_joinWith_cons (separator x : String) (xs : List String) :
    (Text.joinWith separator (x :: xs)).toList =
      x.toList ++ xs.flatMap fun y => separator.toList ++ y.toList := by
  induction xs generalizing x with
  | nil => simp [Text.joinWith]
  | cons y ys ih => simp [Text.joinWith_cons_cons, ih, String.toList_append]

theorem spells_quotations (types : List String) (hQuotes : ∀ s ∈ types, '"' ∉ s.toList)
    {rest : List Char} {others : List Token} (hRest : Token.listOf rest = .ok others) :
    Token.listOf ((Text.joinWith "," (types.map inQuotes)).toList ++ rest) =
      .ok (Clause.textTokens types ++ others) := by
  induction types with
  | nil => exact hRest
  | cons s more ih =>
      have hs := hQuotes s (List.mem_cons_self ..)
      have hMore := ih fun t ht => hQuotes t (List.mem_cons_of_mem s ht)
      cases more with
      | nil =>
          have one := Token.listOf_text s hs hRest
          simpa [Text.joinWith, inQuotes, Clause.textTokens] using one
      | cons t more =>
          have afterComma := Token.listOf_single ',' .comma rfl hMore
          have all := Token.listOf_text s hs afterComma
          simpa [Text.joinWith_cons_cons, inQuotes, Clause.textTokens] using all

theorem spells_links (connective : String) (hWord : Token.IsWord connective.toList)
    (ps : List Predicate) (h : ∀ p ∈ ps, Token.Spells p.written.toList p.tokens) :
    Token.Apart (((ps.map written).map parenthesized).flatMap fun y =>
      (" " ++ connective ++ " ").toList ++ y.toList) ∧
    Token.Spells (((ps.map written).map parenthesized).flatMap fun y =>
      (" " ++ connective ++ " ").toList ++ y.toList)
      ((ps.map tokens).flatMap fun ts => .word connective :: Token.enclosed ts) := by
  induction ps with
  | nil => exact ⟨Token.apart_nil, Token.spells_nil⟩
  | cons p ps ih =>
      obtain ⟨apart, spells⟩ := ih fun q hq => h q (List.mem_cons_of_mem p hq)
      have operand := (h p (List.mem_cons_self ..)).enclosed.space_cons
      have link := ((Token.spells_word connective hWord).append operand
        (Token.apart_space _)).space_cons
      have all := link.append spells apart
      simp only [List.map_cons, List.flatMap_cons, toList_parenthesized, String.toList_append,
        List.append_assoc, List.cons_append, List.nil_append] at all ⊢
      exact ⟨Token.apart_space _, all⟩

theorem spells_chain (connective : String) (hWord : Token.IsWord connective.toList)
    (ps : List Predicate) (h : ∀ p ∈ ps, Token.Spells p.written.toList p.tokens) :
    Token.Spells
      (Text.joinWith (" " ++ connective ++ " ") ((ps.map written).map parenthesized)).toList
      (Token.chain connective (ps.map tokens)) := by
  cases ps with
  | nil => exact Token.spells_nil
  | cons p ps =>
      have first := (h p (List.mem_cons_self ..)).enclosed
      obtain ⟨apart, spells⟩ := spells_links connective hWord ps
        fun q hq => h q (List.mem_cons_of_mem p hq)
      rw [List.map_cons, List.map_cons, toList_joinWith_cons, List.map_cons, Token.chain,
        toList_parenthesized]
      exact first.append spells apart

theorem spells_connected (connective identity : String) (hWord : Token.IsWord connective.toList)
    (hIdentity : Token.IsWord identity.toList) (ps : List Predicate)
    (h : ∀ p ∈ ps, Token.Spells p.written.toList p.tokens) :
    Token.Spells (connected (" " ++ connective ++ " ") identity (ps.map written)).toList
      (connectedTokens connective identity (ps.map tokens)) := by
  match ps with
  | [] => exact Token.spells_word identity hIdentity
  | [p] => exact h p (List.mem_cons_self ..)
  | p :: q :: ps => exact spells_chain connective hWord (p :: q :: ps) h

theorem spells_typeIn (types : List String) (hQuotes : ∀ s ∈ types, '"' ∉ s.toList) :
    Token.Spells (written (.typeIn types)).toList (tokens (.typeIn types)) := by
  intro rest others hApart hRest
  have field := Token.listOf_word "e.type" (by decide) hApart hRest
  have sign := Token.listOf_word "CONTAINS" (by decide) (Token.apart_space _)
    ((Token.listOf_space _).trans field)
  have close := Token.listOf_single ']' .closeBracket rfl ((Token.listOf_space _).trans sign)
  have all := Token.listOf_single '[' .openBracket rfl (spells_quotations types hQuotes close)
  have text : (written (.typeIn types)).toList ++ rest = '[' ::
      ((Text.joinWith "," (types.map inQuotes)).toList ++
        ']' :: ' ' :: ("CONTAINS".toList ++ ' ' :: ("e.type".toList ++ rest))) := by
    simp [written, String.toList_append]
  rw [text, all]
  simp [tokens]

theorem spells_hasTag (tag : String) (hQuotes : '"' ∉ tag.toList) :
    Token.Spells (written (.hasTag tag)).toList (tokens (.hasTag tag)) := by
  intro rest others hApart hRest
  have quoted := Token.listOf_text tag hQuotes hRest
  have sign := Token.listOf_word "CONTAINS" (by decide) (Token.apart_space _)
    ((Token.listOf_space _).trans quoted)
  have all := Token.listOf_word "e.data.tags" (by decide) (Token.apart_space _)
    ((Token.listOf_space _).trans sign)
  have text : (tagText tag).toList ++ rest = "e.data.tags".toList ++
      ' ' :: ("CONTAINS".toList ++ ' ' :: '"' :: (tag.toList ++ '"' :: rest)) := by
    delta tagText inQuotes
    simp only [String.toList_append, List.append_assoc]
    rfl
  exact (congrArg Token.listOf text).trans all

theorem spells_position (comparison : Comparison) (bound : Count) :
    Token.Spells (written (.position comparison bound)).toList
      (tokens (.position comparison bound)) := by
  intro rest others hApart hRest
  -- from the bound back to the opening parenthesis
  have number := Token.listOf_number bound hApart hRest
  have sign := Token.listOf_operator comparison.operator number
  have close := Token.listOf_single ')' .closeParen rfl ((Token.listOf_space _).trans sign)
  have one := Token.listOf_number .one (Token.apart_closeParen _) close
  have plus := Token.listOf_single '+' .plus rfl ((Token.listOf_space _).trans one)
  have int := Token.listOf_word "INT" (by decide) (Token.apart_space _)
    ((Token.listOf_space _).trans plus)
  have as := Token.listOf_word "AS" (by decide) (Token.apart_space _)
    ((Token.listOf_space _).trans int)
  have id := Token.listOf_word "e.id" (by decide) (Token.apart_space _)
    ((Token.listOf_space _).trans as)
  have all := Token.listOf_single '(' .openParen rfl id
  have text : (written (.position comparison bound)).toList ++ rest = '(' :: ("e.id".toList ++
      ' ' :: ("AS".toList ++ ' ' :: ("INT".toList ++ ' ' :: '+' :: ' ' ::
        (Count.one.text.toList ++ ')' :: ' ' :: (comparison.operator.symbol.toList ++
          ' ' :: (bound.text.toList ++ rest)))))) := by
    rw [comparison.symbol_operator]
    simp only [written, String.toList_append, List.append_assoc]
    rfl
  rw [text, all]
  rfl

/-- A written predicate spells its tokens if no quote stands between the quotes. -/
theorem spells_written (p : Predicate) (hQuotes : ∀ s ∈ p.quotations, '"' ∉ s.toList) :
    Token.Spells p.written.toList p.tokens := by
  induction p with
  | always => exact Token.spells_word "true" (by decide)
  | typeIn types => exact spells_typeIn types hQuotes
  | hasTag tag => exact spells_hasTag tag (hQuotes tag (by simp [quotations]))
  | position comparison bound => exact spells_position comparison bound
  | and operands ih =>
      rw [written, tokens, writtenAll_eq_map, tokensAll_eq_map]
      refine spells_connected "AND" "true" (by decide) (by decide) operands fun p hp => ih p hp ?_
      exact fun s hs => hQuotes s (mem_quotationsOfAll hp hs)
  | or operands ih =>
      rw [written, tokens, writtenAll_eq_map, tokensAll_eq_map]
      refine spells_connected "OR" "false" (by decide) (by decide) operands fun p hp => ih p hp ?_
      exact fun s hs => hQuotes s (mem_quotationsOfAll hp hs)
  | not operand ih =>
      have inner := (ih hQuotes).enclosed.space_cons
      have all := (Token.spells_word "NOT" (by decide)).append inner (Token.apart_space _)
      rw [written, tokens, String.toList_append, toList_parenthesized]
      exact all

/-! ## The tokens of a predicate are read as its formula -/

mutual

/-- Whether every restriction of the type names a type.  Without one it cannot be read back. -/
def NamesTypes : Predicate → Prop
  | .always | .hasTag _ | .position _ _ => True
  | .typeIn types => types ≠ []
  | .and operands | .or operands => AllNameTypes operands
  | .not operand => NamesTypes operand

def AllNameTypes : List Predicate → Prop
  | [] => True
  | p :: ps => NamesTypes p ∧ AllNameTypes ps

end

theorem allNameTypes_iff (ps : List Predicate) : AllNameTypes ps ↔ ∀ p ∈ ps, NamesTypes p := by
  induction ps with
  | nil => simp [AllNameTypes]
  | cons p ps ih => simp [AllNameTypes, ih]

/-- No predicate starts like the position of an event after a parenthesis. -/
theorem head?_tokens_append (p : Predicate) (rest : List Token) :
    (p.tokens ++ rest).head? ≠ some (.word "e.id") := by
  induction p with
  | always => simp [tokens]
  | typeIn types => simp [tokens]
  | hasTag tag => simp [tokens]
  | position comparison bound => simp [tokens]
  | and operands ih =>
      rw [tokens, tokensAll_eq_map]
      match operands with
      | [] => simp [connectedTokens]
      | [p] => exact ih p (List.mem_cons_self ..)
      | p :: q :: ps => simp [connectedTokens, Token.chain, Token.enclosed]
  | or operands ih =>
      rw [tokens, tokensAll_eq_map]
      match operands with
      | [] => simp [connectedTokens]
      | [p] => exact ih p (List.mem_cons_self ..)
      | p :: q :: ps => simp [connectedTokens, Token.chain, Token.enclosed]
  | not operand _ => simp [tokens]

section Reading
open Clause
variable {total : Nat}

/-- Whether a predicate is read as its formula wherever an expression can end. -/
def ReadBack (total : Nat) (p : Predicate) : Prop :=
  ∀ rest, Ends rest → Reads (alternatives total (p.tokens ++ rest)) p.formula rest

theorem ReadBack.enclosed {p : Predicate} (h : ReadBack total p) (rest : List Token) :
    Reads (condition total (Token.enclosed p.tokens ++ rest)) p.formula rest := by
  have inner := h (.closeParen :: rest) (ends_closeParen rest)
  have split : Token.enclosed p.tokens ++ rest = .openParen :: (p.tokens ++ .closeParen :: rest) := by
    simp [Token.enclosed]
  rw [split]
  exact reads_condition_parenthesized (head?_tokens_append p _) inner

/-- The tokens of further operands, each with the connective before it. -/
def linkTokens (connective : String) (ps : List Predicate) : List Token :=
  (ps.map tokens).flatMap fun ts => .word connective :: Token.enclosed ts

theorem linkTokens_cons_append (connective : String) (p : Predicate) (ps : List Predicate)
    (rest : List Token) : linkTokens connective (p :: ps) ++ rest =
      .word connective :: (Token.enclosed p.tokens ++ (linkTokens connective ps ++ rest)) := by
  simp [linkTokens]

theorem chain_cons_append (connective : String) (p : Predicate) (ps : List Predicate)
    (rest : List Token) : Token.chain connective ((p :: ps).map tokens) ++ rest =
      Token.enclosed p.tokens ++ (linkTokens connective ps ++ rest) := by
  simp [Token.chain, linkTokens]

theorem reads_links_and (ps : List Predicate) (h : ∀ p ∈ ps, ReadBack total p) (left : Formula)
    (rest : List Token) (hEnd : rest.head? ≠ some (.word "AND")) :
    Reads (moreConditions total left (linkTokens "AND" ps ++ rest))
      ((ps.map formula).foldl .and left) rest := by
  induction ps generalizing left with
  | nil => exact reads_moreConditions_end left rest hEnd
  | cons p ps ih =>
      have first := (h p (List.mem_cons_self ..)).enclosed (linkTokens "AND" ps ++ rest)
      have more := ih (fun q hq => h q (List.mem_cons_of_mem p hq)) (.and left p.formula)
      rw [linkTokens_cons_append]
      exact reads_moreConditions_and first more

theorem reads_chain_and (ps : List Predicate) (h : ∀ p ∈ ps, ReadBack total p) (hNonempty : ps ≠ [])
    (rest : List Token) (hEnd : rest.head? ≠ some (.word "AND")) :
    Reads (conditions total (Token.chain "AND" (ps.map tokens) ++ rest))
      (.conjunction (ps.map formula)) rest := by
  cases ps with
  | nil => exact absurd rfl hNonempty
  | cons p ps =>
      have first := (h p (List.mem_cons_self ..)).enclosed (linkTokens "AND" ps ++ rest)
      have more := reads_links_and ps (fun q hq => h q (List.mem_cons_of_mem p hq)) p.formula rest hEnd
      rw [chain_cons_append]
      exact reads_conditions first more

theorem head?_links_or (ps : List Predicate) (rest : List Token) (hEnds : Ends rest) :
    (linkTokens "OR" ps ++ rest).head? ≠ some (.word "AND") := by
  cases ps with
  | nil => exact hEnds.1
  | cons p ps => rw [linkTokens_cons_append]; simp

theorem reads_links_or (ps : List Predicate) (h : ∀ p ∈ ps, ReadBack total p) (left : Formula)
    (rest : List Token) (hEnds : Ends rest) :
    Reads (moreAlternatives total left (linkTokens "OR" ps ++ rest))
      ((ps.map formula).foldl .or left) rest := by
  induction ps generalizing left with
  | nil => exact reads_moreAlternatives_end left rest hEnds.2
  | cons p ps ih =>
      have first := (h p (List.mem_cons_self ..)).enclosed (linkTokens "OR" ps ++ rest)
      have single := reads_conditions first
        (reads_moreConditions_end p.formula _ (head?_links_or ps rest hEnds))
      have more := ih (fun q hq => h q (List.mem_cons_of_mem p hq)) (.or left p.formula)
      rw [linkTokens_cons_append]
      exact reads_moreAlternatives_or single more

theorem reads_chain_or (ps : List Predicate) (h : ∀ p ∈ ps, ReadBack total p) (hNonempty : ps ≠ [])
    (rest : List Token) (hEnds : Ends rest) :
    Reads (alternatives total (Token.chain "OR" (ps.map tokens) ++ rest))
      (.disjunction (ps.map formula)) rest := by
  cases ps with
  | nil => exact absurd rfl hNonempty
  | cons p ps =>
      have first := (h p (List.mem_cons_self ..)).enclosed (linkTokens "OR" ps ++ rest)
      have single := reads_conditions first
        (reads_moreConditions_end p.formula _ (head?_links_or ps rest hEnds))
      have more := reads_links_or ps (fun q hq => h q (List.mem_cons_of_mem p hq)) p.formula rest hEnds
      rw [chain_cons_append]
      exact reads_alternatives single more

theorem readBack_of_namesTypes (p : Predicate) (hTypes : p.NamesTypes) : ReadBack total p := by
  induction p with
  | always =>
      intro rest hEnds
      exact reads_alternatives_of_condition (reads_condition_constant true rest) hEnds
  | typeIn types =>
      intro rest hEnds
      have split : tokens (.typeIn types) ++ rest = .openBracket :: (textTokens types ++
          .closeBracket :: .word "CONTAINS" :: .word "e.type" :: rest) := by
        simp [tokens]
      rw [split]
      exact reads_alternatives_of_condition (reads_condition_types types rest hTypes) hEnds
  | hasTag tag =>
      intro rest hEnds
      exact reads_alternatives_of_condition (reads_condition_tag tag rest) hEnds
  | position comparison bound =>
      intro rest hEnds
      exact reads_alternatives_of_condition
        (reads_condition_position comparison.operator bound rest) hEnds
  | and operands ih =>
      rw [NamesTypes, allNameTypes_iff] at hTypes
      have each : ∀ p ∈ operands, ReadBack total p := fun p hp => ih p hp (hTypes p hp)
      intro rest hEnds
      rw [tokens, formula, tokensAll_eq_map, formulas_eq_map]
      match operands with
      | [] => exact reads_alternatives_of_condition (reads_condition_constant true rest) hEnds
      | [p] => exact each p (List.mem_cons_self ..) rest hEnds
      | p :: q :: ps =>
          have chain := reads_chain_and (p :: q :: ps) each (List.cons_ne_nil p _) rest hEnds.1
          exact reads_alternatives chain (reads_moreAlternatives_end _ rest hEnds.2)
  | or operands ih =>
      rw [NamesTypes, allNameTypes_iff] at hTypes
      have each : ∀ p ∈ operands, ReadBack total p := fun p hp => ih p hp (hTypes p hp)
      intro rest hEnds
      rw [tokens, formula, tokensAll_eq_map, formulas_eq_map]
      match operands with
      | [] => exact reads_alternatives_of_condition (reads_condition_constant false rest) hEnds
      | [p] => exact each p (List.mem_cons_self ..) rest hEnds
      | p :: q :: ps => exact reads_chain_or (p :: q :: ps) each (List.cons_ne_nil p _) rest hEnds
  | not operand ih =>
      intro rest hEnds
      rw [tokens, List.cons_append]
      have inner := ReadBack.enclosed (ih hTypes) rest
      exact reads_alternatives_of_condition (reads_condition_not inner) hEnds

end Reading
end Predicate
end BoundaryLog
