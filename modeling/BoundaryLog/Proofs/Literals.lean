import BoundaryLog.Proofs.Refusals

/-! # Literals and the structure of a program

A mask blanks the literals of a program, or the texts among tokens, and keeps all else.  The tokens
of a masked predicate are the masked tokens of the predicate, and the texts among the tokens are its
literals.  How a written program is taken apart and whether it is refused are settled by what a mask
keeps.  So whatever the literals imitate, they stay texts between quotes. -/
set_option autoImplicit false
namespace BoundaryLog

/-! ## Masks -/

namespace Token

/-- A token without what stands between its quotes. -/
def masked : Token → Token
  | .text _ => .text ""
  | t => t

/-- What stands between the quotes of a token. -/
def text? : Token → Option String
  | .text s => some s
  | _ => none

theorem map_masked_enclosed (ts : List Token) :
    (enclosed ts).map masked = enclosed (ts.map masked) := by
  simp [enclosed, masked]

theorem texts_enclosed (ts : List Token) : (enclosed ts).filterMap text? = ts.filterMap text? := by
  have inner : (enclosed ts).filterMap text? = ts.filterMap text? ++ [] := List.filterMap_append
  rw [inner, List.append_nil]

theorem map_masked_chain (connective : String) (operands : List (List Token)) :
    (chain connective operands).map masked = chain connective (operands.map (List.map masked)) := by
  cases operands with
  | nil => rfl
  | cons ts more =>
      simp only [chain, List.map_append, List.map_flatMap, List.map_cons, List.flatMap_map,
        map_masked_enclosed]
      rfl

theorem texts_chain (connective : String) (operands : List (List Token)) :
    (chain connective operands).filterMap text? = operands.flatMap (List.filterMap text?) := by
  cases operands with
  | nil => rfl
  | cons ts more =>
      have word : text? (.word connective) = none := rfl
      simp only [chain, List.filterMap_append, List.filterMap_flatMap, List.filterMap_cons, word,
        texts_enclosed, List.flatMap_cons]

end Token

namespace Predicate

mutual

/-- A predicate without its literals. -/
def masked : Predicate → Predicate
  | .always => .always
  | .typeIn types => .typeIn (types.map fun _ => "")
  | .hasTag _ => .hasTag ""
  | .position comparison bound => .position comparison bound
  | .and operands => .and (maskedAll operands)
  | .or operands => .or (maskedAll operands)
  | .not operand => .not (masked operand)

def maskedAll : List Predicate → List Predicate
  | [] => []
  | p :: ps => masked p :: maskedAll ps

end

theorem maskedAll_eq_map (ps : List Predicate) : maskedAll ps = ps.map masked := by
  induction ps with
  | nil => rfl
  | cons p ps ih => rw [maskedAll, ih, List.map_cons]

theorem namesTypes_masked (p : Predicate) : p.masked.NamesTypes ↔ p.NamesTypes := by
  induction p with
  | always => rfl
  | typeIn types => simp [masked, NamesTypes]
  | hasTag tag => rfl
  | position comparison bound => rfl
  | and operands ih =>
      rw [masked, maskedAll_eq_map, NamesTypes, NamesTypes, allNameTypes_iff, allNameTypes_iff,
        List.forall_mem_map]
      exact forall_congr' fun p => forall_congr' fun hp => ih p hp
  | or operands ih =>
      rw [masked, maskedAll_eq_map, NamesTypes, NamesTypes, allNameTypes_iff, allNameTypes_iff,
        List.forall_mem_map]
      exact forall_congr' fun p => forall_congr' fun hp => ih p hp
  | not operand ih => exact ih

/-! ## The tokens of a predicate under a mask -/

theorem map_masked_textTokens (types : List String) :
    (Clause.textTokens types).map Token.masked = Clause.textTokens (types.map fun _ => "") := by
  induction types with
  | nil => rfl
  | cons s more ih =>
      cases more with
      | nil => rfl
      | cons t more => exact congrArg (Token.text "" :: Token.comma :: ·) ih

theorem texts_textTokens (types : List String) :
    (Clause.textTokens types).filterMap Token.text? = types := by
  induction types with
  | nil => rfl
  | cons s more ih =>
      cases more with
      | nil => rfl
      | cons t more => exact congrArg (s :: ·) ih

theorem map_masked_connectedTokens (connective identity : String) (operands : List (List Token)) :
    (connectedTokens connective identity operands).map Token.masked =
      connectedTokens connective identity (operands.map (List.map Token.masked)) := by
  match operands with
  | [] => rfl
  | [ts] => rfl
  | ts :: us :: more => exact Token.map_masked_chain connective (ts :: us :: more)

theorem texts_connectedTokens (connective identity : String) (operands : List (List Token)) :
    (connectedTokens connective identity operands).filterMap Token.text? =
      operands.flatMap (List.filterMap Token.text?) := by
  match operands with
  | [] => rfl
  | [ts] => simp [connectedTokens]
  | ts :: us :: more => exact Token.texts_chain connective (ts :: us :: more)

/-- Masking the tokens of operands is taking the tokens of the masked operands. -/
theorem map_tokens_masked {ps : List Predicate}
    (h : ∀ p ∈ ps, p.masked.tokens = p.tokens.map Token.masked) :
    (ps.map masked).map tokens = (ps.map tokens).map (List.map Token.masked) := by
  rw [List.map_map, List.map_map]
  exact List.map_congr_left h

/-- A mask of a predicate masks the texts among its tokens and no other token. -/
theorem tokens_masked (p : Predicate) : p.masked.tokens = p.tokens.map Token.masked := by
  induction p with
  | always => rfl
  | typeIn types =>
      simp only [masked, tokens, List.map_cons, List.map_append, map_masked_textTokens]
      rfl
  | hasTag tag => rfl
  | position comparison bound => rfl
  | and operands ih =>
      rw [masked, maskedAll_eq_map, tokens, tokens, tokensAll_eq_map, tokensAll_eq_map,
        map_masked_connectedTokens, map_tokens_masked ih]
  | or operands ih =>
      rw [masked, maskedAll_eq_map, tokens, tokens, tokensAll_eq_map, tokensAll_eq_map,
        map_masked_connectedTokens, map_tokens_masked ih]
  | not operand ih =>
      rw [masked, tokens, tokens, List.map_cons, Token.map_masked_enclosed, ih]
      rfl

theorem flatMap_texts_tokens {ps : List Predicate}
    (h : ∀ p ∈ ps, p.tokens.filterMap Token.text? = p.quotations) :
    (ps.map tokens).flatMap (List.filterMap Token.text?) = quotationsOfAll ps := by
  rw [quotationsOfAll_eq_flatMap, List.flatMap, List.flatMap, List.map_map]
  exact congrArg List.flatten (List.map_congr_left h)

/-- The texts among the tokens of a predicate are its literals, in the order of writing. -/
theorem texts_tokens (p : Predicate) : p.tokens.filterMap Token.text? = p.quotations := by
  induction p with
  | always => rfl
  | typeIn types =>
      simp only [tokens, List.filterMap_cons, List.filterMap_append, texts_textTokens, Token.text?,
        List.filterMap_nil, List.append_nil, quotations]
  | hasTag tag => rfl
  | position comparison bound => rfl
  | and operands ih =>
      rw [tokens, tokensAll_eq_map, texts_connectedTokens, flatMap_texts_tokens ih, quotations]
  | or operands ih =>
      rw [tokens, tokensAll_eq_map, texts_connectedTokens, flatMap_texts_tokens ih, quotations]
  | not operand ih =>
      rw [tokens, quotations, ← ih]
      exact Token.texts_enclosed operand.tokens

end Predicate

/-! ## Programs of the same shape -/

namespace Program

/-- A program without its literals. -/
def masked (program : Program) : Program :=
  { program with filters := program.filters.map Predicate.masked }

/-- Whether two programs differ in their literals at most. -/
def SameShape (a b : Program) : Prop := a.masked = b.masked

section Shape
variable {a b : Program} (hShape : a.SameShape b)
include hShape

theorem SameShape.parts_eq :
    a.filters.map Predicate.masked = b.filters.map Predicate.masked ∧
      a.descending = b.descending ∧ a.top = b.top ∧ a.projection = b.projection :=
  Program.mk.inj hShape

theorem SameShape.namesTypes_iff :
    (∀ p ∈ a.filters, p.NamesTypes) ↔ ∀ p ∈ b.filters, p.NamesTypes := by
  have each : ∀ ps : List Predicate,
      (∀ p ∈ ps.map Predicate.masked, p.NamesTypes) ↔ ∀ p ∈ ps, p.NamesTypes := by
    intro ps
    rw [List.forall_mem_map]
    exact forall_congr' fun p => forall_congr' fun _ => p.namesTypes_masked
  rw [← each a.filters, hShape.parts_eq.1, each b.filters]

end Shape
end Program

namespace Statement

/-- The tokens of the clause of a text, none where it has no clause. -/
def clauseTokens (text : String) : Except Fault (Option (List Token)) := do
  let parts ← partsOf text
  match parts.clause with
  | none => return none
  | some clause => return some (← (Token.listOf clause).mapError .badToken)

/-- The tokens that filters are written with. -/
def filterTokens : List Predicate → Option (List Token)
  | [] => none
  | p :: ps => some (Token.chain "AND" ((p :: ps).map Predicate.tokens))

theorem clauseTokens_written (program : Program)
    (hQuotes : ∀ s ∈ Predicate.quotationsOfAll program.filters, '"' ∉ s.toList) :
    clauseTokens program.written = .ok (filterTokens program.filters) := by
  unfold clauseTokens
  rw [partsOf_written]
  obtain ⟨filters, descending, top, projection⟩ := program
  cases filters with
  | nil => rfl
  | cons p ps =>
      simp only [bind, Except.bind, clause?, listOf_clauseText p ps hQuotes]
      rfl

theorem map_masked_filterTokens (filters : List Predicate) :
    (filterTokens filters).map (List.map Token.masked) =
      filterTokens (filters.map Predicate.masked) := by
  cases filters with
  | nil => rfl
  | cons p ps =>
      have operands : ((p :: ps).map Predicate.masked).map Predicate.tokens =
          ((p :: ps).map Predicate.tokens).map (List.map Token.masked) :=
        Predicate.map_tokens_masked fun q _ => q.tokens_masked
      rw [filterTokens, Option.map_some, Token.map_masked_chain, ← operands]
      rfl

theorem texts_filterTokens (filters : List Predicate) :
    ((filterTokens filters).getD []).filterMap Token.text? = Predicate.quotationsOfAll filters := by
  cases filters with
  | nil => rfl
  | cons p ps =>
      rw [filterTokens, Option.getD_some, Token.texts_chain]
      exact Predicate.flatMap_texts_tokens fun q _ => q.texts_tokens

/-- Two programs that differ in their literals at most and can both be written are read alike: both
as statements with the same order, number of events and projection, or both refused, and then for
the same fault.  The tokens of their clauses differ in their texts at most, and the texts are the
literals of the programs, in the order of writing. -/
theorem literals_keep_structure (a b : Program) (hShape : a.SameShape b) (first second : String)
    (hFirst : a.render = .ok first) (hSecond : b.render = .ok second) :
    ((∃ s t, ofText first = .ok s ∧ ofText second = .ok t ∧ s.descending = t.descending ∧
        s.top = t.top ∧ s.projection = t.projection) ∨
      ∃ fault, ofText first = .error fault ∧ ofText second = .error fault) ∧
    ∃ ts us, clauseTokens first = .ok ts ∧ clauseTokens second = .ok us ∧
      ts.map (List.map Token.masked) = us.map (List.map Token.masked) ∧
      (ts.getD []).filterMap Token.text? = Predicate.quotationsOfAll a.filters ∧
      (us.getD []).filterMap Token.text? = Predicate.quotationsOfAll b.filters := by
  have quotesA := Program.not_mem_of_render hFirst
  have quotesB := Program.not_mem_of_render hSecond
  obtain rfl := ((a.render_eq_ok_iff first).1 hFirst).2
  obtain rfl := ((b.render_eq_ok_iff second).1 hSecond).2
  constructor
  · -- what decides between reading and refusing is a list of types without any, which a mask keeps
    by_cases hTypes : ∀ p ∈ a.filters, p.NamesTypes
    · have readA := ofText_written a quotesA hTypes
      have readB := ofText_written b quotesB (hShape.namesTypes_iff.1 hTypes)
      exact Or.inl ⟨_, _, readA, readB, hShape.parts_eq.2⟩
    · have refusedA := ofText_written_refused a quotesA hTypes
      have refusedB := ofText_written_refused b quotesB fun h => hTypes (hShape.namesTypes_iff.2 h)
      exact Or.inr ⟨_, refusedA, refusedB⟩
  · refine ⟨_, _, clauseTokens_written a quotesA, clauseTokens_written b quotesB, ?_,
      texts_filterTokens a.filters, texts_filterTokens b.filters⟩
    rw [map_masked_filterTokens, map_masked_filterTokens, hShape.parts_eq.1]

/-- A program with one type and one tag. -/
def closedProgram (type tag : String) : Program :=
  ⟨[.and [.typeIn [type], .not (.hasTag tag)]], true, some .one, .isEmpty⟩

def plainProgram : Program := closedProgram "ns.Opened" "a"

/-- Its literals imitate the ends of a list of types and of a clause, an order, a number of events
and a projection. -/
def imitatingProgram : Program :=
  closedProgram "x] CONTAINS e.type) OR (true"
    "x) ORDER BY e.id AS INT DESC TOP 5 PROJECT INTO COUNT() == 0"

theorem imitating_literals_keep_structure : ∃ first second,
    plainProgram.render = .ok first ∧ imitatingProgram.render = .ok second ∧
    plainProgram.SameShape imitatingProgram ∧
    ((∃ s t, ofText first = .ok s ∧ ofText second = .ok t ∧ s.descending = t.descending ∧
        s.top = t.top ∧ s.projection = t.projection) ∨
      ∃ fault, ofText first = .error fault ∧ ofText second = .error fault) ∧
    ∃ ts us, clauseTokens first = .ok ts ∧ clauseTokens second = .ok us ∧
      ts.map (List.map Token.masked) = us.map (List.map Token.masked) ∧
      (ts.getD []).filterMap Token.text? = Predicate.quotationsOfAll plainProgram.filters ∧
      (us.getD []).filterMap Token.text? =
        Predicate.quotationsOfAll imitatingProgram.filters := by
  have hFirst : plainProgram.render = .ok plainProgram.written :=
    (plainProgram.render_eq_ok_iff _).2 ⟨by decide +kernel, rfl⟩
  have hSecond : imitatingProgram.render = .ok imitatingProgram.written :=
    (imitatingProgram.render_eq_ok_iff _).2 ⟨by decide +kernel, rfl⟩
  have hShape : plainProgram.SameShape imitatingProgram := rfl
  exact ⟨_, _, hFirst, hSecond, hShape,
    literals_keep_structure plainProgram imitatingProgram hShape _ _ hFirst hSecond⟩

end Statement
end BoundaryLog
