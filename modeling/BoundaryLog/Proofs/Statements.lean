import BoundaryLog.Proofs.Plans
import BoundaryLog.Statement

/-! # A written program is read as what it means

The text of a program is taken apart from its ends by looking for fixed pieces, while the texts
between quotes may hold anything, such pieces too.  What keeps them apart is how the parts of a
program end: the projection holds no second ` PROJECT INTO `; a part that is no number of events
ends in a parenthesis or a letter, so what follows a ` TOP ` inside of it is no number; and a
filter ends in a parenthesis, so it does not end like an order. -/
set_option autoImplicit false
namespace BoundaryLog

/-! ## The statement of a program -/

namespace Program

/-- The expression of all filters, if there are any. -/
def formula? (program : Program) : Option Formula :=
  if program.filters.isEmpty then none
  else some (.conjunction (program.filters.map Predicate.formula))

/-- The statement as which a written program is read. -/
def statement (program : Program) : Statement where
  filter := program.formula?
  descending := program.descending
  top := program.top
  projection := program.projection

theorem selects_statement (program : Program) (r : Record) (place : Nat) :
    program.statement.selects r place = program.selects r.type r.data.tags place := by
  obtain ⟨filters, descending, top, projection⟩ := program
  cases filters with
  | nil => rfl
  | cons p ps =>
      have value : (Formula.conjunction ((p :: ps).map Predicate.formula)).eval r.type r.data.tags
          place = (p :: ps).all (Predicate.holds r.type r.data.tags place) := by
        rw [Formula.eval_conjunction, List.all_map]
        congr 1
        funext q
        exact q.eval_formula r.type r.data.tags place
      exact value

end Program

/-! ## The parts of a program -/

namespace Statement
open Text

/-- A text between the source and the projection of a program: nothing, or a space and then a text
that neither starts like a number of events nor ends in a digit. -/
def IsPart (cs : List Char) : Prop :=
  cs = [] ∨ ∃ first body last, cs = ' ' :: first :: (body ++ [last]) ∧
    isBlank first = false ∧ first ≠ 'T' ∧ isBlank last = false ∧ last.isDigit = false

theorem IsPart.append {front back : List Char} (hFront : IsPart front) (hBack : IsPart back) :
    IsPart (front ++ back) := by
  rcases hFront with rfl | ⟨first, body, last, rfl, hBlank, hLetter, hLast, hDigit⟩
  · exact hBack
  · rcases hBack with rfl | ⟨first', body', last', rfl, -, -, hLast', hDigit'⟩
    · rw [List.append_nil]
      exact Or.inr ⟨first, body, last, rfl, hBlank, hLetter, hLast, hDigit⟩
    · refine Or.inr ⟨first, body ++ last :: ' ' :: first' :: body', last', ?_, hBlank, hLetter,
        hLast', hDigit'⟩
      simp

theorem isTrimmed_of_ends (first last : Char) (body : List Char) (hFirst : isBlank first = false)
    (hLast : isBlank last = false) : IsTrimmed (first :: (body ++ [last])) := by
  constructor
  · intro c hc
    cases hc
    exact hFirst
  · intro c hc
    rw [← List.cons_append, List.getLast?_concat] at hc
    cases hc
    exact hLast

theorem readTop_of_isPart (cs : List Char) (h : IsPart cs) :
    readTop (trim cs) = .ok (trim cs, none) := by
  rcases h with rfl | ⟨first, body, last, rfl, hBlank, hLetter, hLast, hDigit⟩
  · rfl
  · rw [trim_space_cons, trim_of_isTrimmed _ (isTrimmed_of_ends first last body hBlank hLast)]
    unfold readTop
    cases hCut : cutLast? " TOP ".toList (first :: (body ++ [last])) with
    | none =>
        have hStart : after? "TOP ".toList (first :: (body ++ [last])) = none :=
          if_neg fun h => hLetter h.symm
        simp only [hStart]
    | some sides =>
        obtain ⟨before, digits⟩ := sides
        have whole := eq_append_of_cutLast? _ _ _ _ hCut
        -- the last character of the part is the last one of the supposed number
        have hEnd : ∃ ds, digits = ds ++ [last] := by
          rcases List.eq_nil_or_concat digits with rfl | ⟨ds, d, rfl⟩
          · have ends := congrArg List.getLast? whole
            rw [List.append_nil, ← List.cons_append, List.getLast?_concat] at ends
            have space : (before ++ " TOP ".toList).getLast? = some ' ' := by simp
            rw [space] at ends
            cases ends
            exact absurd hLast (by decide)
          · have ends := congrArg List.getLast? whole
            rw [List.concat_eq_append, ← List.cons_append, ← List.append_assoc,
              List.getLast?_concat, List.getLast?_concat] at ends
            cases ends
            exact ⟨ds, List.concat_eq_append⟩
        obtain ⟨ds, rfl⟩ := hEnd
        cases hRead : readCount (ds ++ [last]) with
        | error fault => simp only [hRead]
        | ok n =>
            have := isDigit_of_readCount ds last n hRead
            rw [hDigit] at this
            cases this

/-- A space and four letters do not occur twice in a row before digits. -/
theorem cutLast?_top_digits (n : Count) :
    cutLast? " TOP ".toList ("TOP ".toList ++ n.text.toList) = none := by
  rw [cutLast?_eq_none_iff]
  intro h
  have spaces := h.sublist.count_le ' '
  have noSpace : n.text.toList.count ' ' = 0 := by
    rw [List.count_eq_zero]
    intro hMem
    exact absurd (isDigit_of_mem_countText n ' ' hMem) (by decide)
  rw [List.count_append, noSpace] at spaces
  exact absurd spaces (by decide)

theorem readTop_append (cs : List Char) (h : IsPart cs) (n : Count) :
    readTop (trim (cs ++ (" TOP ".toList ++ n.text.toList))) = .ok (trim cs, some n) := by
  obtain ⟨digits, d, hDigits⟩ : ∃ digits d, n.text.toList = digits ++ [d] := by
    rcases List.eq_nil_or_concat n.text.toList with hNil | ⟨digits, d, hConcat⟩
    · exact absurd hNil (countText_ne_nil n)
    · exact ⟨digits, d, by rw [hConcat, List.concat_eq_append]⟩
  have hd : isBlank d = false := by
    have isDigit := isDigit_of_mem_countText n d (by rw [hDigits]; simp)
    cases hBlank : isBlank d with
    | false => rfl
    | true => exact absurd isDigit (by rw [not_isDigit_of_isBlank d hBlank]; decide)
  rcases h with rfl | ⟨first, body, last, rfl, hBlank, -, hLast, -⟩
  · have text : trim ([] ++ (" TOP ".toList ++ n.text.toList)) = "TOP ".toList ++ n.text.toList := by
      rw [hDigits]
      exact trim_of_isTrimmed _ (isTrimmed_of_ends 'T' d ("OP ".toList ++ digits) rfl hd)
    rw [text]
    unfold readTop
    simp only [cutLast?_top_digits, after?_append, readCount_countText]
    rfl
  · have text : trim (' ' :: first :: (body ++ [last]) ++ (" TOP ".toList ++ n.text.toList)) =
        first :: (body ++ [last]) ++ " TOP ".toList ++ n.text.toList := by
      have ends := isTrimmed_of_ends first d (body ++ [last] ++ " TOP ".toList ++ digits) hBlank hd
      rw [hDigits, List.cons_append, trim_space_cons]
      have regroup : first :: (body ++ [last]) ++ (" TOP ".toList ++ (digits ++ [d])) =
          first :: (body ++ [last] ++ " TOP ".toList ++ digits ++ [d]) := by simp
      rw [regroup, trim_of_isTrimmed _ ends]
      simp
    have cut := cutLast?_append ' ' "TOP ".toList n.text.toList (cutLast?_top_digits n)
      (first :: (body ++ [last]))
    have bodyTrimmed := isTrimmed_of_ends first last body hBlank hLast
    rw [text]
    unfold readTop
    rw [show " TOP ".toList = ' ' :: "TOP ".toList from rfl, cut]
    simp only [readCount_countText]
    rw [trim_space_cons]

/-! ## Order and filter -/

theorem readOrder_of_closeParen (body : List Char) :
    readOrder (body ++ [')']) = (body ++ [')'], false) := by
  have other : before? "ORDER BY e.id AS INT DESC".toList (body ++ [')']) = none := by
    rw [before?, List.reverse_append]
    rfl
  unfold readOrder
  rw [other]

theorem readOrder_append (cs : List Char) (h : IsPart cs) :
    readOrder (trim (cs ++ " ORDER BY e.id AS INT DESC".toList)) = (trim cs, true) := by
  rcases h with rfl | ⟨first, body, last, rfl, hBlank, -, hLast, -⟩
  · rfl
  · have bodyTrimmed := isTrimmed_of_ends first last body hBlank hLast
    have text : trim (' ' :: first :: (body ++ [last]) ++ " ORDER BY e.id AS INT DESC".toList) =
        first :: (body ++ [last]) ++ [' '] ++ "ORDER BY e.id AS INT DESC".toList := by
      have ends := isTrimmed_of_ends first 'C'
        (body ++ [last] ++ " ORDER BY e.id AS INT DES".toList) hBlank rfl
      have regroup : first :: (body ++ [last]) ++ " ORDER BY e.id AS INT DESC".toList =
          first :: (body ++ [last] ++ " ORDER BY e.id AS INT DES".toList ++ ['C']) := by simp
      rw [List.cons_append, trim_space_cons, regroup, trim_of_isTrimmed _ ends]
      simp
    have cut := (before?_eq_some_iff "ORDER BY e.id AS INT DESC".toList _ _).2 text
    unfold readOrder
    rw [cut, trim_space_cons, trim_of_isTrimmed _ bodyTrimmed]
    simp only [trim_append_space _ bodyTrimmed]

section Filter
variable (p : Predicate) (ps : List Predicate)

/-- The text of filters, without the word before it. -/
def clauseText (ps : List Predicate) : List Char :=
  (joinWith " AND " ((ps.map Predicate.written).map Predicate.parenthesized)).toList

theorem clauseText_ends : ∃ inner, clauseText (p :: ps) = '(' :: (inner ++ [')']) := by
  induction ps generalizing p with
  | nil =>
      refine ⟨p.written.toList, ?_⟩
      simp only [clauseText, List.map_cons, List.map_nil, joinWith, Predicate.toList_parenthesized]
  | cons q qs ih =>
      obtain ⟨inner, hInner⟩ := ih q
      refine ⟨p.written.toList ++ [')'] ++ " AND ".toList ++ '(' :: inner, ?_⟩
      have step : clauseText (p :: q :: qs) =
          (Predicate.parenthesized p.written).toList ++ " AND ".toList ++ clauseText (q :: qs) := by
        simp only [clauseText, List.map_cons, joinWith_cons_cons, String.toList_append]
      rw [step, hInner, Predicate.toList_parenthesized]
      simp

variable (hQuotes : ∀ s ∈ Predicate.quotationsOfAll (p :: ps), '"' ∉ s.toList)
include hQuotes

theorem listOf_clauseText : Token.listOf (clauseText (p :: ps)) =
    .ok (Token.chain "AND" ((p :: ps).map Predicate.tokens)) := by
  have spells : Token.Spells (clauseText (p :: ps))
      (Token.chain "AND" ((p :: ps).map Predicate.tokens)) := by
    apply Predicate.spells_chain "AND" (by decide)
    intro q hq
    exact q.spells_written fun s hs => hQuotes s (Predicate.mem_quotationsOfAll hq hs)
  exact spells.listOf_eq

variable (hTypes : ∀ q ∈ p :: ps, q.NamesTypes)
include hTypes

theorem readClause_clauseText :
    readClause (clauseText (p :: ps)) = .ok (.conjunction ((p :: ps).map Predicate.formula)) := by
  have reads : Clause.Reads (Clause.conditions
      (Token.chain "AND" ((p :: ps).map Predicate.tokens)).length
      (Token.chain "AND" ((p :: ps).map Predicate.tokens) ++ []))
      (.conjunction ((p :: ps).map Predicate.formula)) [] := by
    apply Predicate.reads_chain_and
    · intro q hq
      exact q.readBack_of_namesTypes (hTypes q hq)
    · exact List.cons_ne_nil p ps
    · exact nofun
  have whole := Clause.reads_alternatives reads (Clause.reads_moreAlternatives_end _ [] nofun)
  rw [List.append_nil] at whole
  obtain ⟨parsed, hParsed, hValue, hRest⟩ := whole
  have tokens : (Token.listOf (clauseText (p :: ps))).mapError Fault.badToken =
      .ok (Token.chain "AND" ((p :: ps).map Predicate.tokens)) := by
    rw [listOf_clauseText p ps hQuotes]
    rfl
  have parse : (Clause.parse (Token.chain "AND" ((p :: ps).map Predicate.tokens))).mapError
      Fault.badExpression = .ok parsed := by
    rw [Clause.parse, hParsed]
    rfl
  unfold readClause
  simp only [tokens, parse, bind, Except.bind, hRest, hValue]
  rfl

end Filter

/-! ## Whole programs -/

theorem readProjection_text (projection : Projection) :
    readProjection projection.text.toList = .ok projection := by
  cases projection with
  | envelope =>
      have different : Projection.envelope.text.toList ≠ Projection.isEmpty.text.toList := by
        decide +kernel
      rw [readProjection, if_neg different, if_pos rfl]
  | isEmpty => rw [readProjection, if_pos rfl]

theorem cutLast?_projection (projection : Projection) :
    cutLast? " PROJECT INTO ".toList ("PROJECT INTO ".toList ++ projection.text.toList) = none := by
  cases projection with
  | envelope => decide +kernel
  | isEmpty => decide +kernel

def filterPart (filters : List Predicate) : List Char :=
  (Program.filtersText (filters.map Predicate.written)).toList

theorem filterPart_cons (p : Predicate) (ps : List Predicate) :
    filterPart (p :: ps) = ' ' :: ("WHERE ".toList ++ clauseText (p :: ps)) := by
  simp only [filterPart, List.map_cons, Program.filtersText, String.toList_append, clauseText]
  rfl

theorem isPart_filterPart (filters : List Predicate) : IsPart (filterPart filters) := by
  cases filters with
  | nil => exact Or.inl rfl
  | cons p ps =>
      obtain ⟨inner, hInner⟩ := clauseText_ends p ps
      refine Or.inr ⟨'W', "HERE ".toList ++ '(' :: inner, ')', ?_, rfl, by decide, rfl, rfl⟩
      rw [filterPart_cons, hInner]
      simp

theorem isPart_orderText (descending : Bool) :
    IsPart (Program.orderText descending).toList := by
  cases descending with
  | false => exact Or.inl rfl
  | true =>
      exact Or.inr ⟨'O', "RDER BY e.id AS INT DES".toList, 'C', rfl, rfl, by decide, rfl, rfl⟩

theorem readTop_part (cs : List Char) (h : IsPart cs) (top : Option Count) :
    readTop (trim (cs ++ (Program.topText top).toList)) = .ok (trim cs, top) := by
  cases top with
  | none =>
      have text : cs ++ (Program.topText none).toList = cs := List.append_nil cs
      rw [text]
      exact readTop_of_isPart cs h
  | some n =>
      rw [Program.topText, String.toList_append]
      exact readTop_append cs h n

theorem readOrder_part (filters : List Predicate) (descending : Bool) :
    readOrder (trim (filterPart filters ++ (Program.orderText descending).toList)) =
      (trim (filterPart filters), descending) := by
  cases descending with
  | true => exact readOrder_append (filterPart filters) (isPart_filterPart filters)
  | false =>
      have text : filterPart filters ++ (Program.orderText false).toList = filterPart filters :=
        List.append_nil _
      rw [text]
      cases filters with
      | nil => rfl
      | cons p ps =>
          obtain ⟨inner, hInner⟩ := clauseText_ends p ps
          have ends := isTrimmed_of_ends 'W' ')' ("HERE ".toList ++ '(' :: inner) rfl rfl
          have whole : "WHERE ".toList ++ clauseText (p :: ps) =
              'W' :: ("HERE ".toList ++ '(' :: inner ++ [')']) := by
            rw [hInner]
            simp
          rw [filterPart_cons, trim_space_cons, whole, trim_of_isTrimmed _ ends]
          exact readOrder_of_closeParen ('W' :: ("HERE ".toList ++ '(' :: inner))

theorem toList_written (program : Program) :
    program.written.toList = "FROM e IN events".toList ++
      (filterPart program.filters ++ (Program.orderText program.descending).toList ++
        (Program.topText program.top).toList ++ " PROJECT INTO ".toList ++
        program.projection.text.toList) := by
  delta Program.written
  simp only [String.toList_append, Predicate.writtenAll_eq_map, filterPart, List.append_assoc]

/-- What a text is taken apart into before its clause is read. -/
structure Parts where
  clause : Option (List Char)
  descending : Bool
  top : Option Count
  projection : Projection

/-- What is left when source, projection, number and order are taken off: a clause or nothing. -/
def clauseOf (head : List Char) : Except Fault (Option (List Char)) :=
  match after? "WHERE ".toList head with
  | some clause => .ok (some clause)
  | none => if head.isEmpty then .ok none else .error (.unsupportedClause (String.ofList head))

def partsOf (text : String) : Except Fault Parts :=
  match after? "FROM e IN events".toList text.toList with
  | none => .error (.unsupportedSource text)
  | some body =>
      match cutLast? " PROJECT INTO ".toList body with
      | none => .error .missingProjection
      | some (head, projection) => do
          let projection ← readProjection projection
          let (head, top) ← readTop (trim head)
          let (head, descending) := readOrder head
          let clause ← clauseOf head
          return ⟨clause, descending, top, projection⟩

/-- The statement of the parts of a text: its clause is still to be read. -/
def Parts.statement (parts : Parts) : Except Fault Statement :=
  match parts.clause with
  | none => .ok ⟨none, parts.descending, parts.top, parts.projection⟩
  | some clause =>
      (readClause clause).map fun e => ⟨some e, parts.descending, parts.top, parts.projection⟩

/-- A text is read by taking it apart and then reading its clause. -/
theorem ofText_eq_bind (text : String) : ofText text = (partsOf text).bind Parts.statement := by
  unfold ofText partsOf
  cases after? "FROM e IN events".toList text.toList with
  | none => rfl
  | some body =>
      cases hCut : cutLast? " PROJECT INTO ".toList body with
      | none => simp only [hCut]; rfl
      | some sides =>
          obtain ⟨head, projection⟩ := sides
          simp only [hCut]
          cases readProjection projection with
          | error fault => rfl
          | ok projection =>
              cases readTop (trim head) with
              | error fault => rfl
              | ok rest =>
                  obtain ⟨head, top⟩ := rest
                  simp only [bind, Except.bind, readFilter, clauseOf]
                  cases after? "WHERE ".toList (readOrder head).1 with
                  | none => cases (readOrder head).1.isEmpty <;> rfl
                  | some clause =>
                      simp only [Parts.statement, pure, Except.pure]
                      cases readClause clause <;> rfl

/-- The clause of filters; none where there are no filters. -/
def clause? : List Predicate → Option (List Char)
  | [] => none
  | p :: ps => some (clauseText (p :: ps))

theorem clauseOf_part (filters : List Predicate) :
    clauseOf (trim (filterPart filters)) = .ok (clause? filters) := by
  cases filters with
  | nil => rfl
  | cons p ps =>
      obtain ⟨inner, hInner⟩ := clauseText_ends p ps
      have ends := isTrimmed_of_ends 'W' ')' ("HERE ".toList ++ '(' :: inner) rfl rfl
      have whole : 'W' :: ("HERE ".toList ++ '(' :: inner ++ [')']) =
          "WHERE ".toList ++ clauseText (p :: ps) := by
        rw [hInner]
        simp
      rw [whole] at ends
      rw [filterPart_cons, trim_space_cons, trim_of_isTrimmed _ ends]
      unfold clauseOf
      rw [after?_append]
      rfl

/-- A written program is taken apart into what it was written from, whatever its filters quote. -/
theorem partsOf_written (program : Program) :
    partsOf program.written = .ok ⟨clause? program.filters, program.descending, program.top,
      program.projection⟩ := by
  have cut := cutLast?_append ' ' "PROJECT INTO ".toList program.projection.text.toList
    (cutLast?_projection program.projection)
    (filterPart program.filters ++ (Program.orderText program.descending).toList ++
      (Program.topText program.top).toList)
  have parts := (isPart_filterPart program.filters).append (isPart_orderText program.descending)
  unfold partsOf
  rw [toList_written, after?_append]
  simp only
  rw [show " PROJECT INTO ".toList = ' ' :: "PROJECT INTO ".toList from rfl, cut]
  simp only [readProjection_text, bind, Except.bind, readTop_part _ parts, readOrder_part,
    clauseOf_part]
  rfl

/-- A written program is read as its statement, if no quote stands between quotes and no
restriction of the type is empty. -/
theorem ofText_written (program : Program)
    (hQuotes : ∀ s ∈ Predicate.quotationsOfAll program.filters, '"' ∉ s.toList)
    (hTypes : ∀ p ∈ program.filters, p.NamesTypes) :
    ofText program.written = .ok program.statement := by
  rw [ofText_eq_bind, partsOf_written]
  obtain ⟨filters, descending, top, projection⟩ := program
  cases filters with
  | nil => rfl
  | cons p ps =>
      have clause := readClause_clauseText p ps hQuotes hTypes
      simp only [Except.bind, Parts.statement, clause?, clause]
      rfl

/-- A program of a query that has programs is read as its statement. -/
theorem ofText_of_runs {typePrefix : String} {q : Query} {program : Program}
    {positions : List Predicate} (hRuns : q.Runs typePrefix program positions)
    (hFault : q.fault? typePrefix = none) : ofText program.written = .ok program.statement := by
  apply ofText_written
  · rw [hRuns.quotationsOfAll_eq]
    exact q.not_mem_literals typePrefix hFault
  · exact hRuns.namesTypes

theorem ofText_of_render (program : Program) (text : String) (hText : program.render = .ok text)
    (hTypes : ∀ p ∈ program.filters, p.NamesTypes) : ofText text = .ok program.statement := by
  rw [← ((program.render_eq_ok_iff text).1 hText).2]
  exact ofText_written program (Program.not_mem_of_render hText) hTypes

/-- Whatever program is written, reading its text gives back its order, its number of events and its
projection, and a filter that is true of the same events: of the event with number `id`, counted
from 0, exactly if all predicates of the program are true of it at position `id + 1`.  The one thing
that does not come back is a restriction of the type without types, and no query leads to one. -/
theorem written_program_keeps_meaning :
    (∀ (program : Program) (text : String), program.render = .ok text →
      (∀ p ∈ program.filters, p.NamesTypes) →
        ∃ s, ofText text = .ok s ∧ s.descending = program.descending ∧ s.top = program.top ∧
          s.projection = program.projection ∧
          ∀ (r : Record) (id : Nat), s.selects r (id + 1) =
            program.filters.all (Predicate.holds r.type r.data.tags (id + 1))) ∧
    ∀ (typePrefix : String) (q : Query) (plan : QueryPlan), q.plan typePrefix = .ok plan →
      ∀ p ∈ plan.predicate, p.NamesTypes := by
  constructor
  · intro program text hText hTypes
    refine ⟨program.statement, ofText_of_render program text hText hTypes, rfl, rfl, rfl, ?_⟩
    intro r id
    exact program.selects_statement r (id + 1)
  · intro typePrefix q plan hPlan p hp
    rw [q.plan_eq] at hPlan
    split at hPlan
    · cases hPlan
      exact q.namesTypes_of_mem_filters typePrefix p (List.mem_of_mem_head? hp)
    · cases hPlan

/-- A program with a tag that looks like the end of its filter and a number of events. -/
def deceptiveProgram : Program := ⟨[.not (.hasTag "a) TOP 1 ")], false, some .one, .isEmpty⟩

theorem deceptive_program_keeps_meaning :
    (∃ text, deceptiveProgram.render = .ok text ∧ ∃ s, ofText text = .ok s ∧
      s.descending = false ∧ s.top = some .one ∧ s.projection = .isEmpty ∧
      ∀ (r : Record) (id : Nat), s.selects r (id + 1) =
        deceptiveProgram.filters.all (Predicate.holds r.type r.data.tags (id + 1))) ∧
    ∀ p ∈ some (Predicate.typeIn ["ns.A"]), p.NamesTypes := by
  have vetted : (Predicate.quotationsOfAll deceptiveProgram.filters).findSome? Predicate.bad? = none :=
    rfl
  have hText : deceptiveProgram.render = .ok deceptiveProgram.written := by
    rw [Program.render_eq_vetted, Predicate.vetted_eq_ok_iff]
    exact ⟨vetted, rfl⟩
  have hTypes : ∀ p ∈ deceptiveProgram.filters, p.NamesTypes := by
    intro p hp
    rw [List.mem_singleton.1 hp]
    trivial
  exact ⟨⟨_, hText, written_program_keeps_meaning.1 deceptiveProgram _ hText hTypes⟩,
    written_program_keeps_meaning.2 "ns." (.criteria [Criterion.new.restrictTypes ["A"]])
      ⟨some (.typeIn ["ns.A"]), false⟩ rfl⟩

end Statement
end BoundaryLog
