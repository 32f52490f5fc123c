import BoundaryLog.Proofs.Grammar
import BoundaryLog.Proofs.Scans

/-! # Distinct predicates have distinct texts

A conjunction of nothing is written as what is always true, and a connective with one operand is not
written at all.  A predicate is collapsed when it has no such connectives.  Collapsing does not change
the text, and the tokens of a collapsed predicate tell the predicate, also when other tokens follow
that do not carry it on.  So texts are equal exactly if the predicates collapse to the same one.
What a query is compiled to is collapsed from the start. -/
set_option autoImplicit false
namespace BoundaryLog

theorem Comparison.operator_injective : Function.Injective operator := by
  intro a b h
  cases a <;> cases b <;> first | rfl | cases h

namespace Predicate

/-! ## Collapsing -/

mutual

/-- A predicate of which every conjunction and every disjunction was built by collapsing: of no
operands a conjunction is always true, and one operand stands for itself. -/
def collapsed : Predicate → Predicate
  | .always => .always
  | .typeIn types => .typeIn types
  | .hasTag tag => .hasTag tag
  | .position comparison bound => .position comparison bound
  | .and operands => conjunction (collapsedAll operands)
  | .or operands => disjunction (collapsedAll operands)
  | .not operand => .not (collapsed operand)

def collapsedAll : List Predicate → List Predicate
  | [] => []
  | p :: ps => collapsed p :: collapsedAll ps

end

theorem collapsedAll_eq_map (ps : List Predicate) : collapsedAll ps = ps.map collapsed := by
  induction ps with
  | nil => rfl
  | cons p ps ih => rw [collapsedAll, ih, List.map_cons]

/-- Whether each connective of a predicate is written: it has two operands at least, or it is the
disjunction of nothing, which nothing else is written as. -/
inductive IsCollapsed : Predicate → Prop where
  | always : IsCollapsed .always
  | typeIn (types : List String) : IsCollapsed (.typeIn types)
  | hasTag (tag : String) : IsCollapsed (.hasTag tag)
  | position (comparison : Comparison) (bound : Count) : IsCollapsed (.position comparison bound)
  | and (p q : Predicate) (more : List Predicate) (h : ∀ r ∈ p :: q :: more, IsCollapsed r) :
      IsCollapsed (.and (p :: q :: more))
  | never : IsCollapsed (.or [])
  | or (p q : Predicate) (more : List Predicate) (h : ∀ r ∈ p :: q :: more, IsCollapsed r) :
      IsCollapsed (.or (p :: q :: more))
  | not (operand : Predicate) (h : IsCollapsed operand) : IsCollapsed (.not operand)

theorem isCollapsed_conjunction (ps : List Predicate) (h : ∀ p ∈ ps, IsCollapsed p) :
    (conjunction ps).IsCollapsed := by
  match ps with
  | [] => exact .always
  | [p] => exact h p List.mem_cons_self
  | p :: q :: more => exact .and p q more h

theorem isCollapsed_disjunction (ps : List Predicate) (h : ∀ p ∈ ps, IsCollapsed p) :
    (disjunction ps).IsCollapsed := by
  match ps with
  | [] => exact .never
  | [p] => exact h p List.mem_cons_self
  | p :: q :: more => exact .or p q more h

theorem isCollapsed_collapsed (p : Predicate) : p.collapsed.IsCollapsed := by
  induction p with
  | always => exact .always
  | typeIn types => exact .typeIn types
  | hasTag tag => exact .hasTag tag
  | position comparison bound => exact .position comparison bound
  | and operands ih =>
      rw [collapsed, collapsedAll_eq_map]
      exact isCollapsed_conjunction _ (List.forall_mem_map.2 ih)
  | or operands ih =>
      rw [collapsed, collapsedAll_eq_map]
      exact isCollapsed_disjunction _ (List.forall_mem_map.2 ih)
  | not operand ih => exact .not _ ih

/-! ## The text of a collapsed predicate -/

theorem written_conjunction (ps : List Predicate) :
    (conjunction ps).written = connected " AND " "true" (ps.map written) := by
  match ps with
  | [] => rfl
  | [p] => rfl
  | p :: q :: more => exact congrArg (connected " AND " "true") (writtenAll_eq_map (p :: q :: more))

theorem written_disjunction (ps : List Predicate) :
    (disjunction ps).written = connected " OR " "false" (ps.map written) := by
  match ps with
  | [] => rfl
  | [p] => rfl
  | p :: q :: more => exact congrArg (connected " OR " "false") (writtenAll_eq_map (p :: q :: more))

theorem written_collapsed (p : Predicate) : p.collapsed.written = p.written := by
  induction p with
  | always | typeIn _ | hasTag _ | position _ _ => rfl
  | and operands ih =>
      rw [collapsed, written_conjunction, written, collapsedAll_eq_map, writtenAll_eq_map, List.map_map]
      exact congrArg _ (List.map_congr_left ih)
  | or operands ih =>
      rw [collapsed, written_disjunction, written, collapsedAll_eq_map, writtenAll_eq_map, List.map_map]
      exact congrArg _ (List.map_congr_left ih)
  | not operand ih => rw [collapsed, written, written, ih]

theorem quotations_collapsed (p : Predicate) : p.collapsed.quotations = p.quotations := by
  have all : ∀ operands : List Predicate, (∀ p ∈ operands, p.collapsed.quotations = p.quotations) →
      quotationsOfAll (collapsedAll operands) = quotationsOfAll operands := by
    intro operands ih
    rw [collapsedAll_eq_map, quotationsOfAll_eq_flatMap, quotationsOfAll_eq_flatMap,
      List.flatMap_map]
    exact List.flatMap_congr ih
  induction p with
  | always | typeIn _ | hasTag _ | position _ _ => rfl
  | and operands ih => rw [collapsed, quotations_conjunction, all operands ih, quotations]
  | or operands ih => rw [collapsed, quotations_disjunction, all operands ih, quotations]
  | not operand ih => exact ih

/-- Collapsing changes neither the text of a predicate nor the fault for which it has none. -/
theorem render_collapsed (p : Predicate) : p.collapsed.render = p.render := by
  rw [render_eq, render_eq, quotations_collapsed, written_collapsed]

/-! ## The tokens of a collapsed predicate -/

theorem head?_textTokens_append (s : String) (more : List String) (rest : List Token) :
    (Clause.textTokens (s :: more) ++ rest).head? = some (.text s) := by
  cases more <;> rfl

/-- The end of a list of types is at its bracket. -/
theorem textTokens_unique (types others : List String) (rest following : List Token)
    (h : Clause.textTokens types ++ .closeBracket :: rest =
      Clause.textTokens others ++ .closeBracket :: following) :
    types = others ∧ rest = following := by
  cases types with
  | nil =>
      cases others with
      | nil => exact ⟨rfl, (List.cons.inj h).2⟩
      | cons t others =>
          have first := congrArg List.head? h
          rw [head?_textTokens_append] at first
          cases first
  | cons s types =>
      cases others with
      | nil =>
          have first := congrArg List.head? h
          rw [head?_textTokens_append] at first
          cases first
      | cons t others =>
          -- Both lists are what the reader takes from the same tokens, and it takes one.
          have read := Clause.reads_texts (s :: types) rest (List.cons_ne_nil s types)
          rw [h] at read
          exact read.unique (Clause.reads_texts (t :: others) following (List.cons_ne_nil t others))

/-- Whether the tokens of a predicate tell it among the collapsed ones, wherever it ends. -/
def IsTold (p : Predicate) : Prop :=
  ∀ q, IsCollapsed q → ∀ rest following, Clause.Ends rest → Clause.Ends following →
    p.tokens ++ rest = q.tokens ++ following → p = q ∧ rest = following

section Told
variable {p : Predicate} {rest following : List Token}

theorem IsTold.enclosed (hp : p.IsTold) (q : Predicate) (hq : q.IsCollapsed)
    (h : Token.enclosed p.tokens ++ rest = Token.enclosed q.tokens ++ following) :
    p = q ∧ rest = following := by
  simp only [Token.enclosed, List.cons_append, List.append_assoc, List.nil_append,
    List.cons.injEq, true_and] at h
  obtain ⟨same, hRest⟩ := hp q hq _ _ (Clause.ends_closeParen rest)
    (Clause.ends_closeParen following) h
  exact ⟨same, (List.cons.inj hRest).2⟩

theorem links_unique (connective : String) (ps : List Predicate) (hps : ∀ p ∈ ps, p.IsTold)
    (qs : List Predicate) (hqs : ∀ q ∈ qs, q.IsCollapsed)
    (hRest : rest.head? ≠ some (.word connective))
    (hFollowing : following.head? ≠ some (.word connective))
    (h : linkTokens connective ps ++ rest = linkTokens connective qs ++ following) :
    ps = qs ∧ rest = following := by
  induction ps generalizing qs with
  | nil =>
      cases qs with
      | nil => exact ⟨rfl, h⟩
      | cons q qs =>
          rw [linkTokens_cons_append] at h
          exact absurd (congrArg List.head? h) hRest
  | cons p ps ih =>
      cases qs with
      | nil =>
          rw [linkTokens_cons_append] at h
          exact absurd (congrArg List.head? h).symm hFollowing
      | cons q qs =>
          rw [linkTokens_cons_append, linkTokens_cons_append] at h
          obtain ⟨told, allTold⟩ := List.forall_mem_cons.1 hps
          obtain ⟨collapsed, allCollapsed⟩ := List.forall_mem_cons.1 hqs
          obtain ⟨rfl, hLinks⟩ := told.enclosed q collapsed (List.cons.inj h).2
          obtain ⟨rfl, hEnd⟩ := ih allTold qs allCollapsed hLinks
          exact ⟨rfl, hEnd⟩

theorem chain_unique (connective : String) {q : Predicate} {ps qs : List Predicate}
    (hTold : ∀ r ∈ p :: ps, r.IsTold) (hCollapsed : ∀ r ∈ q :: qs, r.IsCollapsed)
    (hRest : rest.head? ≠ some (.word connective))
    (hFollowing : following.head? ≠ some (.word connective))
    (h : Token.chain connective ((p :: ps).map tokens) ++ rest =
      Token.chain connective ((q :: qs).map tokens) ++ following) :
    p :: ps = q :: qs ∧ rest = following := by
  rw [chain_cons_append, chain_cons_append] at h
  obtain ⟨told, allTold⟩ := List.forall_mem_cons.1 hTold
  obtain ⟨collapsed, allCollapsed⟩ := List.forall_mem_cons.1 hCollapsed
  obtain ⟨rfl, hLinks⟩ := told.enclosed q collapsed h
  obtain ⟨rfl, hEnd⟩ := links_unique connective ps allTold qs allCollapsed hRest hFollowing hLinks
  exact ⟨rfl, hEnd⟩

end Told

/-! ## Chains of operands -/

/-- A way to join operands. -/
inductive Connective where
  | and
  | or

namespace Connective

def word : Connective → String
  | .and => "AND"
  | .or => "OR"

def join : Connective → List Predicate → Predicate
  | .and => .and
  | .or => .or

theorem word_injective : Function.Injective word := by
  intro a b h
  cases a <;> cases b <;> first | rfl | exact absurd h (by decide)

end Connective

section Chains
variable (c : Connective) {p q : Predicate} {more : List Predicate} {rest following : List Token}

theorem tokens_join : tokens (c.join (p :: q :: more)) =
    Token.chain c.word ((p :: q :: more).map tokens) := by
  cases c with
  | and =>
      rw [Connective.join, tokens, tokensAll_eq_map]
      rfl
  | or =>
      rw [Connective.join, tokens, tokensAll_eq_map]
      rfl

theorem head?_ne_of_ends (hEnds : Clause.Ends rest) : rest.head? ≠ some (.word c.word) := by
  cases c with
  | and => exact hEnds.1
  | or => exact hEnds.2

/-- The word behind the first operand is the connective. -/
theorem connective_unique (d : Connective) {p' q' : Predicate} {more' : List Predicate}
    (hTold : p.IsTold) (hCollapsed : p'.IsCollapsed)
    (h : tokens (c.join (p :: q :: more)) ++ rest =
      tokens (d.join (p' :: q' :: more')) ++ following) : c = d := by
  rw [tokens_join, tokens_join, chain_cons_append, chain_cons_append] at h
  obtain ⟨rfl, hLinks⟩ := hTold.enclosed p' hCollapsed h
  rw [linkTokens_cons_append, linkTokens_cons_append] at hLinks
  exact Connective.word_injective (Token.word.inj (List.cons.inj hLinks).1)

theorem joined_unique (d : Connective) {p' q' : Predicate} {more' : List Predicate}
    (hTold : ∀ r ∈ p :: q :: more, r.IsTold) (hCollapsed : ∀ r ∈ p' :: q' :: more', r.IsCollapsed)
    (hRest : Clause.Ends rest) (hFollowing : Clause.Ends following)
    (h : tokens (c.join (p :: q :: more)) ++ rest =
      tokens (d.join (p' :: q' :: more')) ++ following) :
    c.join (p :: q :: more) = d.join (p' :: q' :: more') ∧ rest = following := by
  obtain rfl := connective_unique c d (List.forall_mem_cons.1 hTold).1
    (List.forall_mem_cons.1 hCollapsed).1 h
  rw [tokens_join, tokens_join] at h
  obtain ⟨operands, hEnd⟩ := chain_unique c.word hTold hCollapsed (head?_ne_of_ends c hRest)
    (head?_ne_of_ends c hFollowing) h
  exact ⟨congrArg c.join operands, hEnd⟩

/-- The position of an event is no parenthesized operand. -/
theorem position_ne_joined (comparison : Comparison) (bound : Count) :
    tokens (.position comparison bound) ++ rest ≠
      tokens (c.join (p :: q :: more)) ++ following := by
  intro h
  rw [tokens_join, chain_cons_append] at h
  simp only [Token.enclosed, List.cons_append, List.append_assoc, tokens] at h
  exact head?_tokens_append p _ (congrArg List.head? (List.cons.inj h).2).symm

end Chains

/-! ## Telling predicates by their tokens -/

/-- The token that a collapsed predicate starts with. -/
def opening : Predicate → Token
  | .always => .word "true"
  | .typeIn _ => .openBracket
  | .hasTag _ => .word "e.data.tags"
  | .position _ _ | .and _ | .or (_ :: _) => .openParen
  | .or [] => .word "false"
  | .not _ => .word "NOT"

theorem head?_tokens_of_isCollapsed (p : Predicate) (hp : p.IsCollapsed) (rest : List Token) :
    (p.tokens ++ rest).head? = some p.opening := by
  cases hp <;> rfl

section Kinds
variable {p q : Predicate} {rest following : List Token}

theorem opening_unique (hp : p.IsCollapsed) (hq : q.IsCollapsed)
    (h : p.tokens ++ rest = q.tokens ++ following) : p.opening = q.opening := by
  have heads := congrArg List.head? h
  rw [head?_tokens_of_isCollapsed p hp, head?_tokens_of_isCollapsed q hq] at heads
  exact Option.some.inj heads

theorem isTold_always : IsTold .always := by
  intro q hq rest following _ _ h
  have first := opening_unique .always hq h
  cases hq with
  | always => exact ⟨rfl, (List.cons.inj h).2⟩
  | _ => simp [opening] at first

theorem isTold_never : IsTold (.or []) := by
  intro q hq rest following _ _ h
  have first := opening_unique .never hq h
  cases hq with
  | never => exact ⟨rfl, (List.cons.inj h).2⟩
  | _ => simp [opening] at first

theorem isTold_typeIn (types : List String) : IsTold (.typeIn types) := by
  intro q hq rest following _ _ h
  have first := opening_unique (.typeIn types) hq h
  cases hq with
  | typeIn others =>
      simp only [tokens, List.cons_append, List.append_assoc, List.nil_append, List.cons.injEq,
        true_and] at h
      obtain ⟨rfl, hEnd⟩ := textTokens_unique types others _ _ h
      simp only [List.cons.injEq, true_and] at hEnd
      exact ⟨rfl, hEnd⟩
  | _ => simp [opening] at first

theorem isTold_hasTag (tag : String) : IsTold (.hasTag tag) := by
  intro q hq rest following _ _ h
  have first := opening_unique (.hasTag tag) hq h
  cases hq with
  | hasTag other =>
      simp only [tokens, List.cons_append, List.nil_append, List.cons.injEq, Token.text.injEq,
        true_and] at h
      exact ⟨congrArg Predicate.hasTag h.1, h.2⟩
  | _ => simp [opening] at first

theorem isTold_position (comparison : Comparison) (bound : Count) :
    IsTold (.position comparison bound) := by
  intro q hq rest following _ _ h
  have first := opening_unique (.position comparison bound) hq h
  cases hq with
  | position other bound' =>
      simp only [tokens, List.cons_append, List.append_assoc, List.nil_append,
        List.append_cancel_left_eq, List.cons.injEq, Token.op.injEq, Token.number.injEq,
        true_and] at h
      obtain ⟨hOperator, rfl, hEnd⟩ := h
      obtain rfl := Comparison.operator_injective hOperator
      exact ⟨rfl, hEnd⟩
  -- A parenthesis opens these as well, but then an operand follows.
  | and p q more _ => exact absurd h (position_ne_joined .and comparison bound)
  | or p q more _ => exact absurd h (position_ne_joined .or comparison bound)
  | _ => simp [opening] at first

theorem isTold_not (operand : Predicate) (hOperand : operand.IsCollapsed) (hTold : operand.IsTold) :
    IsTold (.not operand) := by
  intro q hq rest following _ _ h
  have first := opening_unique (.not operand hOperand) hq h
  cases hq with
  | not other hOther =>
      obtain ⟨same, hEnd⟩ := hTold.enclosed other hOther (List.cons.inj h).2
      exact ⟨congrArg Predicate.not same, hEnd⟩
  | _ => simp [opening] at first

theorem isTold_join (c : Connective) (p q : Predicate) (more : List Predicate)
    (hSelf : (c.join (p :: q :: more)).IsCollapsed) (hTold : ∀ r ∈ p :: q :: more, r.IsTold) :
    IsTold (c.join (p :: q :: more)) := by
  intro r hr rest following hRest hFollowing h
  have first := opening_unique hSelf hr h
  have opens : (c.join (p :: q :: more)).opening = .openParen := by cases c <;> rfl
  rw [opens] at first
  cases hr with
  | position comparison bound => exact absurd h.symm (position_ne_joined c comparison bound)
  | and p' q' more' hOthers => exact joined_unique c .and hTold hOthers hRest hFollowing h
  | or p' q' more' hOthers => exact joined_unique c .or hTold hOthers hRest hFollowing h
  | _ => simp [opening] at first

end Kinds

/-- A collapsed predicate is told by its tokens.  The first of them tells its kind, except that a
parenthesis opens a position as well as the operands of either connective. -/
theorem isTold_of_isCollapsed (p : Predicate) (hp : p.IsCollapsed) : p.IsTold := by
  induction hp with
  | always => exact isTold_always
  | typeIn types => exact isTold_typeIn types
  | hasTag tag => exact isTold_hasTag tag
  | position comparison bound => exact isTold_position comparison bound
  | and p q more hOperands ih => exact isTold_join .and p q more (.and p q more hOperands) ih
  | never => exact isTold_never
  | or p q more hOperands ih => exact isTold_join .or p q more (.or p q more hOperands) ih
  | not operand hOperand ih => exact isTold_not operand hOperand ih

theorem eq_of_written_eq (p q : Predicate) (hp : p.IsCollapsed) (hq : q.IsCollapsed)
    (hQuotes : ∀ s ∈ p.quotations, '"' ∉ s.toList) (hQuotes' : ∀ s ∈ q.quotations, '"' ∉ s.toList)
    (h : p.written = q.written) : p = q := by
  have listed := (spells_written p hQuotes).listOf_eq
  rw [h, (spells_written q hQuotes').listOf_eq] at listed
  have ends : Clause.Ends [] := ⟨nofun, nofun⟩
  have same : p.tokens ++ [] = q.tokens ++ [] := by
    rw [List.append_nil, List.append_nil, Except.ok.inj listed]
  exact (isTold_of_isCollapsed p hp q hq [] [] ends ends same).1

/-- Two predicates that can be written have the same text exactly if they collapse to the same
predicate. -/
theorem text_eq_iff (p q : Predicate) (first second : String) (hFirst : p.render = .ok first)
    (hSecond : q.render = .ok second) : first = second ↔ p.collapsed = q.collapsed := by
  constructor
  · rintro rfl
    rw [← p.render_collapsed, render_eq] at hFirst
    rw [← q.render_collapsed, render_eq] at hSecond
    have same := ((vetted_eq_ok_iff _ _ _).1 hFirst).2.trans ((vetted_eq_ok_iff _ _ _).1 hSecond).2.symm
    exact eq_of_written_eq _ _ p.isCollapsed_collapsed q.isCollapsed_collapsed
      (not_mem_of_vetted _ _ _ hFirst) (not_mem_of_vetted _ _ _ hSecond) same
  · intro same
    rw [← p.render_collapsed, same, q.render_collapsed, hSecond] at hFirst
    exact (Except.ok.inj hFirst).symm

end Predicate

/-! ## The texts of programs -/

theorem Statement.filterTokens_unique (ps qs : List Predicate) (hps : ∀ p ∈ ps, p.IsCollapsed)
    (hqs : ∀ q ∈ qs, q.IsCollapsed) (h : filterTokens ps = filterTokens qs) : ps = qs := by
  cases ps with
  | nil =>
      cases qs with
      | nil => rfl
      | cons q qs => cases h
  | cons p ps =>
      cases qs with
      | nil => cases h
      | cons q qs =>
          have chains : Token.chain "AND" ((p :: ps).map Predicate.tokens) ++ [] =
              Token.chain "AND" ((q :: qs).map Predicate.tokens) ++ [] := by
            rw [Option.some.inj h]
          have ends : ([] : List Token).head? ≠ some (.word "AND") := nofun
          exact (Predicate.chain_unique "AND" (fun r hr => r.isTold_of_isCollapsed (hps r hr)) hqs
            ends ends chains).1

/-- The text of a program tells its filters, if they are collapsed. -/
theorem Program.filters_unique (a b : Program) (ha : ∀ p ∈ a.filters, p.IsCollapsed)
    (hb : ∀ p ∈ b.filters, p.IsCollapsed)
    (hQuotes : ∀ s ∈ Predicate.quotationsOfAll a.filters, '"' ∉ s.toList)
    (hQuotes' : ∀ s ∈ Predicate.quotationsOfAll b.filters, '"' ∉ s.toList)
    (h : a.written = b.written) : a.filters = b.filters := by
  have listed := Statement.clauseTokens_written a hQuotes
  rw [h, Statement.clauseTokens_written b hQuotes'] at listed
  exact Statement.filterTokens_unique _ _ ha hb (Except.ok.inj listed).symm

/-! ## The predicates of queries -/

theorem Criterion.isCollapsed_predicate (c : Criterion) (typePrefix : String) :
    (c.predicate typePrefix).IsCollapsed := by
  apply Predicate.isCollapsed_conjunction
  intro p hp
  rcases List.mem_append.1 hp with hType | hTag
  · split at hType
    · cases hType
    · rw [List.mem_singleton.1 hType]
      exact .typeIn _
  · obtain ⟨t, -, rfl⟩ := List.mem_map.1 hTag
    exact .hasTag t

namespace Query
variable (q : Query) (typePrefix : String) (traversal : Traversal)

theorem isCollapsed_of_mem_filters (p : Predicate) (hp : p ∈ q.filters typePrefix) :
    p.IsCollapsed := by
  unfold filters at hp
  split at hp
  · cases hp
  · rw [List.mem_singleton.1 hp]
    apply Predicate.isCollapsed_disjunction
    intro r hr
    obtain ⟨c, -, rfl⟩ := List.mem_map.1 hr
    exact c.isCollapsed_predicate typePrefix

theorem isCollapsed_of_mem_scanProgram (p : Predicate)
    (hp : p ∈ (q.scanProgram typePrefix traversal).filters) : p.IsCollapsed := by
  have runs := q.runs_scanProgram typePrefix traversal
  rw [runs.filters_eq] at hp
  rcases List.mem_append.1 hp with hQuery | hPosition
  · exact q.isCollapsed_of_mem_filters typePrefix p hQuery
  · have isPosition := runs.isPosition p hPosition
    cases p with
    | position comparison bound => exact .position comparison bound
    | _ => exact isPosition.elim

/-- The text of a read tells the predicate of its query, once it is known how the read goes through
the events. -/
theorem filters_unique (other : Query) (text : String)
    (hText : q.scanText typePrefix traversal = .ok text)
    (hOther : other.scanText typePrefix traversal = .ok text) :
    q.filters typePrefix = other.filters typePrefix := by
  obtain ⟨hFault, hWritten⟩ := (q.scanText_eq_ok_iff typePrefix traversal text).1 hText
  obtain ⟨hFault', hWritten'⟩ := (other.scanText_eq_ok_iff typePrefix traversal text).1 hOther
  have filters := Program.filters_unique (q.scanProgram typePrefix traversal)
    (other.scanProgram typePrefix traversal) (q.isCollapsed_of_mem_scanProgram typePrefix traversal)
    (other.isCollapsed_of_mem_scanProgram typePrefix traversal)
    (by rw [(q.runs_scanProgram typePrefix traversal).quotationsOfAll_eq]
        exact q.not_mem_literals typePrefix hFault)
    (by rw [(other.runs_scanProgram typePrefix traversal).quotationsOfAll_eq]
        exact other.not_mem_literals typePrefix hFault')
    (hWritten.trans hWritten'.symm)
  exact List.append_cancel_right filters

theorem predicate_of_plan (plan : QueryPlan) (h : q.plan typePrefix = .ok plan) :
    plan.predicate = (q.filters typePrefix).head? := by
  rw [plan_eq] at h
  split at h
  · cases h
    rfl
  · cases h

end Query

/-- A text tells its predicate up to connectives that stand for nothing.  Two predicates that can be
written have the same text exactly if they collapse to the same predicate; a predicate has the text
of the one that it collapses to, or is refused with it; and two queries with distinct predicates, in
the same namespace and with the same traversal, have reads with distinct texts. -/
theorem text_tells_collapsed_predicate :
    (∀ (p q : Predicate) (first second : String), p.render = .ok first → q.render = .ok second →
      (first = second ↔ p.collapsed = q.collapsed)) ∧
    (∀ p : Predicate, p.collapsed.render = p.render) ∧
    ∀ (a b : Query) (typePrefix : String) (traversal : Traversal) (planA planB : QueryPlan)
      (first second : String), a.plan typePrefix = .ok planA → b.plan typePrefix = .ok planB →
      planA.predicate ≠ planB.predicate → a.scanText typePrefix traversal = .ok first →
      b.scanText typePrefix traversal = .ok second → first ≠ second := by
  refine ⟨Predicate.text_eq_iff, Predicate.render_collapsed, ?_⟩
  intro a b typePrefix traversal planA planB first second hPlanA hPlanB hDistinct hFirst hSecond same
  subst same
  have filters := a.filters_unique typePrefix traversal b first hFirst hSecond
  apply hDistinct
  rw [a.predicate_of_plan typePrefix planA hPlanA, b.predicate_of_plan typePrefix planB hPlanB, filters]

/-- A predicate with connectives that stand for nothing. -/
def wordyPredicate : Predicate := .and [.or [.and [.hasTag "a"]], .not (.and [])]

def tersePredicate : Predicate := .and [.hasTag "a", .not .always]

/-- A criterion that restricts nothing, whose predicate is always true. -/
def anyCriterion : Query := .criteria [Criterion.new]

/-- The read from the sixth event on. -/
def fromSixth : Traversal := ⟨some ⟨6, by decide, by decide⟩, false, none⟩

theorem wordy_predicate_has_terse_text :
    ∃ first second, wordyPredicate.render = .ok first ∧ tersePredicate.render = .ok second ∧
      first = second ∧ ∃ all any, Query.all.scanText "ns." fromSixth = .ok all ∧
        anyCriterion.scanText "ns." fromSixth = .ok any ∧ all ≠ any := by
  obtain ⟨same, -, distinct⟩ := text_tells_collapsed_predicate
  have hFirst : wordyPredicate.render = .ok wordyPredicate.written := rfl
  have hSecond : tersePredicate.render = .ok tersePredicate.written := rfl
  have hAll := (Query.all.scanText_eq_ok_iff "ns." fromSixth _).2 ⟨rfl, rfl⟩
  have hAny := (anyCriterion.scanText_eq_ok_iff "ns." fromSixth _).2 ⟨rfl, rfl⟩
  exact ⟨_, _, hFirst, hSecond, (same _ _ _ _ hFirst hSecond).2 rfl, _, _, hAll, hAny,
    distinct _ _ _ _ ⟨none, false⟩ ⟨some .always, false⟩ _ _ rfl rfl nofun hAll hAny⟩

end BoundaryLog
