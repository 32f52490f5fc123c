import BoundaryLog.Backend.Memory
import BoundaryLog.Clause.Grammar
import BoundaryLog.Proofs.Literals

/-! # A clause is read by its grammar

The reader of expressions takes what is at the front of the tokens and leaves the rest, with one
token in view.  What it takes is a phrase of its kind: by induction on the number of tokens, since
every call is made on fewer of them, and the loops join each further operand to what they have, as
the grammar does.  And every phrase is taken: by induction on its derivation, where a phrase that may
be continued is followed by whatever the loop behind it reads.  So the expressions that the reader
finds are those of the grammar, and no list of tokens has two of them. -/
set_option autoImplicit false
namespace BoundaryLog
namespace Clause

/-! ## What a reading that succeeded was made of -/

section Results
variable {α β : Type} {n m : Nat}

theorem Reads.of_ok {a b : α} {middle rest : List Token} {hShort : middle.length < n}
    (h : Reads (.ok ⟨a, middle, hShort⟩) b rest) : a = b ∧ middle = rest := by
  obtain ⟨_, hParsed, hValue, hRest⟩ := h
  cases hParsed
  exact ⟨hValue, hRest⟩

theorem not_reads_error (fault : Fault) (a : α) (rest : List Token) :
    ¬ Reads (.error fault : Except Fault (Parsed α n)) a rest := by
  rintro ⟨_, h, -⟩
  cases h

theorem Reads.of_bind {first : Except Fault (Parsed α n)}
    {next : Parsed α n → Except Fault (Parsed β m)} {b : β} {rest : List Token}
    (h : Reads (first >>= next) b rest) :
    ∃ a middle hShort, Reads first a middle ∧ Reads (next ⟨a, middle, hShort⟩) b rest := by
  cases first with
  | error fault => exact absurd h (not_reads_error fault b rest)
  | ok parsed => exact ⟨parsed.value, parsed.rest, parsed.shorter, ⟨parsed, rfl, rfl, rfl⟩, h⟩

theorem Reads.of_within {result : Except Fault (Parsed α n)} {large : Nat} {hLarge : n ≤ large}
    {a : α} {rest : List Token}
    (h : Reads (do let parsed ← result; return parsed.within large hLarge) a rest) :
    Reads result a rest := by
  obtain ⟨value, middle, hShort, hRead, hWithin⟩ := h.of_bind
  obtain ⟨rfl, rfl⟩ := hWithin.of_ok
  exact hRead

/-- A reading has one value and one rest. -/
theorem Reads.unique {result : Except Fault (Parsed α n)} {a b : α} {rest other : List Token}
    (h : Reads result a rest) (hOther : Reads result b other) : a = b ∧ rest = other := by
  obtain ⟨parsed, rfl, rfl, rfl⟩ := h
  exact hOther.of_ok

end Results

/-! ## Fixed tokens and tests -/

theorem of_reads_expectAll (tokens ts rest : List Token) (h : Reads (expectAll tokens ts) () rest) :
    ts = tokens ++ rest := by
  induction tokens generalizing ts with
  | nil =>
      cases ts with
      | nil => exact h.of_ok.2
      | cons t ts => exact h.of_ok.2
  | cons token tokens ih =>
      cases ts with
      | nil => exact absurd h (not_reads_error _ _ _)
      | cons t ts =>
          rw [expectAll] at h
          by_cases same : t = token
          · rw [if_pos same] at h
            rw [same, ih ts h.of_within, List.cons_append]
          · rw [if_neg same] at h
            exact absurd h (not_reads_error _ _ _)

theorem of_reads_comparison (ts rest : List Token) (e : Formula) (h : Reads (comparison ts) e rest) :
    ∃ operator bound, ts = .op operator :: .number bound :: rest ∧ e = .position operator bound := by
  unfold comparison at h
  split at h
  case h_3 operator bound others =>
      obtain ⟨rfl, rfl⟩ := h.of_ok
      exact ⟨operator, bound, rfl, rfl⟩
  all_goals exact absurd h (not_reads_error _ _ _)

theorem of_reads_positionTest (ts rest : List Token) (e : Formula)
    (h : Reads (positionTest ts) e rest) :
    ∃ operator bound, ts = positionTokens ++ .op operator :: .number bound :: rest ∧
      e = .position operator bound := by
  unfold positionTest at h
  obtain ⟨_, middle, _, hExpression, hTest⟩ := h.of_bind
  obtain ⟨operator, bound, hRest, rfl⟩ := of_reads_comparison _ _ _ hTest.of_within
  have whole := of_reads_expectAll _ _ _ hExpression
  exact ⟨operator, bound, whole.trans (congrArg (positionTokens ++ ·) hRest), rfl⟩

theorem of_reads_texts (ts rest : List Token) (types : List String) (h : Reads (texts ts) types rest) :
    ∃ front, Lists front types ∧ ts = front ++ .closeBracket :: rest := by
  induction ts using texts.induct generalizing types with
  | case1 => exact absurd h (not_reads_error _ _ _)
  | case2 s => exact absurd h (not_reads_error _ _ _)
  | case3 s others ih =>
      rw [texts] at h
      obtain ⟨more, middle, _, hMore, hAll⟩ := h.of_bind
      obtain ⟨rfl, rfl⟩ := hAll.of_ok
      obtain ⟨front, hFront, hSplit⟩ := ih more hMore
      exact ⟨_, .more s hFront, congrArg (.text s :: .comma :: ·) hSplit⟩
  | case4 s others =>
      obtain ⟨rfl, rfl⟩ := h.of_ok
      exact ⟨_, .one s, rfl⟩
  | case5 s t others hComma hClose =>
      rw [texts] at h
      · exact absurd h (not_reads_error _ _ _)
      · exact hComma
      · exact hClose
  | case6 t others hAlone hComma hClose hText =>
      rw [texts] at h
      · exact absurd h (not_reads_error _ _ _)
      all_goals assumption

theorem of_reads_typeTest (ts rest : List Token) (e : Formula) (h : Reads (typeTest ts) e rest) :
    ∃ front types, Lists front types ∧ e = .typeIn types ∧
      ts = front ++ .closeBracket :: .word "CONTAINS" :: .word "e.type" :: rest := by
  unfold typeTest at h
  obtain ⟨types, middle, _, hTypes, hAll⟩ := h.of_bind
  obtain ⟨_, last, _, hField, hValue⟩ := hAll.of_bind
  obtain ⟨rfl, rfl⟩ := hValue.of_ok
  obtain ⟨front, hFront, rfl⟩ := of_reads_texts _ _ _ hTypes
  have field := of_reads_expectAll _ _ _ hField
  exact ⟨front, types, hFront, rfl, congrArg (front ++ .closeBracket :: ·) field⟩

theorem of_reads_tag (ts rest : List Token) (e : Formula) (h : Reads (tag ts) e rest) :
    ∃ s, ts = .text s :: rest ∧ e = .hasTag s := by
  unfold tag at h
  split at h
  case h_2 s others =>
      obtain ⟨rfl, rfl⟩ := h.of_ok
      exact ⟨s, rfl, rfl⟩
  all_goals exact absurd h (not_reads_error _ _ _)

theorem of_reads_tagTest (ts rest : List Token) (e : Formula) (h : Reads (tagTest ts) e rest) :
    ∃ s, ts = .word "CONTAINS" :: .text s :: rest ∧ e = .hasTag s := by
  unfold tagTest at h
  obtain ⟨_, middle, _, hSign, hTest⟩ := h.of_bind
  obtain ⟨s, rfl, rfl⟩ := of_reads_tag _ _ _ hTest.of_within
  exact ⟨s, of_reads_expectAll _ _ _ hSign, rfl⟩

/-! ## What is read is a phrase -/

/-- Whether all that is read from tokens is a phrase at their front. -/
def Takes {n : Nat} (phrase : Phrase) (result : Except Fault (Parsed Formula n)) (ts : List Token) :
    Prop :=
  ∀ e rest, Reads result e rest → ∃ front, ts = front ++ rest ∧ Denotes phrase front e

/-- Whether all that is read from tokens carries on a phrase that stands for an expression. -/
def Extends {n : Nat} (phrase : Phrase) (left : Formula) (result : Except Fault (Parsed Formula n))
    (ts : List Token) : Prop :=
  ∀ before, Denotes phrase before left →
    ∀ e rest, Reads result e rest → ∃ front, ts = front ++ rest ∧ Denotes phrase (before ++ front) e

section Loops
variable {n : Nat} {phrase operand : Phrase} {left : Formula} {ts : List Token}

theorem extends_ok (h : ts.length < n) :
    Extends phrase left (.ok (⟨left, ts, h⟩ : Parsed Formula n)) ts := by
  intro before hBefore e rest hReads
  obtain ⟨rfl, rfl⟩ := hReads.of_ok
  exact ⟨[], rfl, by rwa [List.append_nil]⟩

/-- A first operand that is carried on by a loop. -/
theorem takes_bind {first : Except Fault (Parsed Formula n)}
    {more : (p : Parsed Formula n) → Except Fault (Parsed Formula (p.rest.length + 1))}
    (hFirst : Takes operand first ts)
    (hUnit : ∀ us e, Denotes operand us e → Denotes phrase us e)
    (hMore : ∀ p, Extends phrase p.value (more p) p.rest) :
    Takes phrase (do let p ← first; let all ← more p; return all.within _ p.shorter) ts := by
  intro e rest h
  obtain ⟨value, middle, hShort, hRead, hAll⟩ := h.of_bind
  obtain ⟨front, rfl, hDenotes⟩ := hFirst _ _ hRead
  obtain ⟨back, rfl, hWhole⟩ := hMore _ front (hUnit _ _ hDenotes) e rest hAll.of_within
  exact ⟨front ++ back, (List.append_assoc ..).symm, hWhole⟩

/-- One turn of a loop: the word that asks for it, an operand, and the further turns. -/
theorem extends_bind {w : String} {join : Formula → Formula → Formula} {us : List Token}
    {next : Except Fault (Parsed Formula us.length)}
    {more : (p : Parsed Formula us.length) → Except Fault (Parsed Formula (p.rest.length + 1))}
    (hNext : Takes operand next us)
    (hJoin : ∀ before front right, Denotes phrase before left → Denotes operand front right →
      Denotes phrase (before ++ .word w :: front) (join left right))
    (hMore : ∀ p, Extends phrase (join left p.value) (more p) p.rest)
    (hBound : ∀ p : Parsed Formula us.length, p.rest.length + 1 ≤ n) :
    Extends phrase left (do let p ← next; let all ← more p; return all.within n (hBound p))
      (.word w :: us) := by
  intro before hBefore e rest h
  obtain ⟨value, middle, hShort, hRead, hAll⟩ := h.of_bind
  obtain ⟨front, hFront, hDenotes⟩ := hNext _ _ hRead
  obtain ⟨back, hBack, hWhole⟩ := hMore _ _ (hJoin _ _ _ hBefore hDenotes) e rest hAll.of_within
  have whole : us = front ++ back ++ rest := by
    rw [hFront, List.append_assoc]
    exact congrArg (front ++ ·) hBack
  refine ⟨.word w :: (front ++ back), congrArg _ whole, ?_⟩
  rwa [List.append_assoc] at hWhole

end Loops

section Taking
variable {total : Nat}

theorem takes_alternatives_of {ts : List Token}
    (hFirst : Takes .conditions (conditions total ts) ts)
    (hMore : ∀ p : Parsed Formula ts.length,
      Extends .alternatives p.value (moreAlternatives total p.value p.rest) p.rest) :
    Takes .alternatives (alternatives total ts) ts := by
  rw [alternatives]
  exact takes_bind hFirst (fun _ _ => .alternative) hMore

theorem extends_moreAlternatives_nil (left : Formula) :
    Extends .alternatives left (moreAlternatives total left []) [] := by
  rw [moreAlternatives]
  exact extends_ok _

theorem extends_moreAlternatives_or (left : Formula) (rest : List Token)
    (hNext : Takes .conditions (conditions total rest) rest)
    (hMore : ∀ p : Parsed Formula rest.length,
      Extends .alternatives (.or left p.value) (moreAlternatives total (.or left p.value) p.rest)
        p.rest) :
    Extends .alternatives left (moreAlternatives total left (.word "OR" :: rest))
      (.word "OR" :: rest) := by
  rw [moreAlternatives, if_pos rfl]
  exact extends_bind hNext (fun _ _ _ => .or) hMore _

theorem extends_moreAlternatives_other (left : Formula) (t : Token) (rest : List Token)
    (h : t ≠ .word "OR") :
    Extends .alternatives left (moreAlternatives total left (t :: rest)) (t :: rest) := by
  rw [moreAlternatives, if_neg h]
  exact extends_ok _

theorem takes_conditions_of {ts : List Token} (hFirst : Takes .condition (condition total ts) ts)
    (hMore : ∀ p : Parsed Formula ts.length,
      Extends .conditions p.value (moreConditions total p.value p.rest) p.rest) :
    Takes .conditions (conditions total ts) ts := by
  rw [conditions]
  exact takes_bind hFirst (fun _ _ => .condition) hMore

theorem extends_moreConditions_nil (left : Formula) :
    Extends .conditions left (moreConditions total left []) [] := by
  rw [moreConditions]
  exact extends_ok _

theorem extends_moreConditions_and (left : Formula) (rest : List Token)
    (hNext : Takes .condition (condition total rest) rest)
    (hMore : ∀ p : Parsed Formula rest.length,
      Extends .conditions (.and left p.value) (moreConditions total (.and left p.value) p.rest)
        p.rest) :
    Extends .conditions left (moreConditions total left (.word "AND" :: rest))
      (.word "AND" :: rest) := by
  rw [moreConditions, if_pos rfl]
  exact extends_bind hNext (fun _ _ _ => .and) hMore _

theorem extends_moreConditions_other (left : Formula) (t : Token) (rest : List Token)
    (h : t ≠ .word "AND") :
    Extends .conditions left (moreConditions total left (t :: rest)) (t :: rest) := by
  rw [moreConditions, if_neg h]
  exact extends_ok _

theorem takes_condition_nil : Takes .condition (condition total []) [] := by
  intro e rest h
  rw [condition] at h
  exact absurd h (not_reads_error _ _ _)

theorem takes_condition_not (rest : List Token)
    (hOperand : Takes .condition (condition total rest) rest) :
    Takes .condition (condition total (.word "NOT" :: rest)) (.word "NOT" :: rest) := by
  intro e final h
  rw [condition, if_pos rfl] at h
  obtain ⟨operand, middle, _, hRead, hAll⟩ := h.of_bind
  obtain ⟨rfl, rfl⟩ := hAll.of_ok
  obtain ⟨front, hFront, hDenotes⟩ := hOperand _ _ hRead
  exact ⟨.word "NOT" :: front, congrArg _ hFront, .not hDenotes⟩

theorem takes_condition_simple (t : Token) (rest : List Token) (hNot : t ≠ .word "NOT")
    (hSimple : Takes .simple (simple total t rest) (t :: rest)) :
    Takes .condition (condition total (t :: rest)) (t :: rest) := by
  intro e final h
  rw [condition, if_neg hNot] at h
  obtain ⟨front, hFront, hDenotes⟩ := hSimple e final h
  exact ⟨front, hFront, .simple hDenotes⟩

theorem takes_simple_position (rest : List Token) (hStart : rest.head? = some (.word "e.id")) :
    Takes .simple (simple total .openParen rest) (.openParen :: rest) := by
  intro e final h
  rw [simple, if_pos hStart] at h
  obtain ⟨operator, bound, rfl, rfl⟩ := of_reads_positionTest _ _ _ h
  exact ⟨_, rfl, .position operator bound⟩

theorem takes_simple_parenthesized (rest : List Token)
    (hStart : rest.head? ≠ some (.word "e.id"))
    (hInner : Takes .alternatives (alternatives total rest) rest) :
    Takes .simple (simple total .openParen rest) (.openParen :: rest) := by
  intro e final h
  rw [simple, if_neg hStart] at h
  obtain ⟨inner, middle, _, hRead, hAll⟩ := h.of_bind
  obtain ⟨_, last, _, hClose, hValue⟩ := hAll.of_bind
  obtain ⟨rfl, rfl⟩ := hValue.of_ok
  obtain ⟨front, rfl, hDenotes⟩ := hInner _ _ hRead
  have close := congrArg (.openParen :: front ++ ·) (of_reads_expectAll _ _ _ hClose)
  refine ⟨_, close.trans ?_, .parenthesized hDenotes⟩
  simp

theorem takes_simple_types (rest : List Token) :
    Takes .simple (simple total .openBracket rest) (.openBracket :: rest) := by
  intro e final h
  rw [simple] at h
  obtain ⟨front, types, hTypes, rfl, rfl⟩ := of_reads_typeTest _ _ _ h
  exact ⟨_, by simp, .types hTypes⟩

theorem takes_simple_tag (rest : List Token) :
    Takes .simple (simple total (.word "e.data.tags") rest) (.word "e.data.tags" :: rest) := by
  intro e final h
  rw [simple, if_pos rfl] at h
  obtain ⟨s, rfl, rfl⟩ := of_reads_tagTest _ _ _ h
  exact ⟨_, rfl, .tag s⟩

theorem takes_simple_true (rest : List Token) :
    Takes .simple (simple total (.word "true") rest) (.word "true" :: rest) := by
  intro e final h
  rw [simple] at h
  obtain ⟨rfl, rfl⟩ := h.of_ok
  exact ⟨_, rfl, .yes⟩

theorem takes_simple_false (rest : List Token) :
    Takes .simple (simple total (.word "false") rest) (.word "false" :: rest) := by
  intro e final h
  rw [simple] at h
  obtain ⟨rfl, rfl⟩ := h.of_ok
  exact ⟨_, rfl, .no⟩

theorem takes_simple_word (rest : List Token) (w : String) (hTags : w ≠ "e.data.tags")
    (hTrue : w ≠ "true") (hFalse : w ≠ "false") :
    Takes .simple (simple total (.word w) rest) (.word w :: rest) := by
  intro e final h
  rw [simple, if_neg hTags, if_neg hTrue, if_neg hFalse] at h
  exact absurd h (not_reads_error _ _ _)

theorem takes_simple_other (rest : List Token) (t : Token) (hParen : t ≠ .openParen)
    (hBracket : t ≠ .openBracket) (hWord : ∀ w, t ≠ .word w) :
    Takes .simple (simple total t rest) (t :: rest) := by
  intro e final h
  rw [simple] at h
  · exact absurd h (not_reads_error _ _ _)
  · exact hParen
  · exact hBracket
  · exact hWord

/-- The expression that is read from tokens is denoted by those that were taken. -/
theorem takes_alternatives (ts : List Token) :
    Takes .alternatives (alternatives total ts) ts :=
  alternatives.induct
    (fun ts => Takes .alternatives (alternatives total ts) ts)
    (fun left ts => Extends .alternatives left (moreAlternatives total left ts) ts)
    (fun ts => Takes .conditions (conditions total ts) ts)
    (fun left ts => Extends .conditions left (moreConditions total left ts) ts)
    (fun ts => Takes .condition (condition total ts) ts)
    (fun t rest => Takes .simple (simple total t rest) (t :: rest))
    (fun _ => takes_alternatives_of)
    extends_moreAlternatives_nil extends_moreAlternatives_or extends_moreAlternatives_other
    (fun _ => takes_conditions_of)
    extends_moreConditions_nil extends_moreConditions_and extends_moreConditions_other
    takes_condition_nil takes_condition_not takes_condition_simple
    takes_simple_position takes_simple_parenthesized takes_simple_types takes_simple_tag
    (fun rest _ => takes_simple_true rest) (fun rest _ _ => takes_simple_false rest)
    takes_simple_word takes_simple_other ts

end Taking

/-! ## Every phrase is read -/

/-- No phrase starts like the position of an event after a parenthesis. -/
theorem Denotes.head?_append {phrase : Phrase} {ts : List Token} {e : Formula}
    (h : Denotes phrase ts e) (rest : List Token) : (ts ++ rest).head? ≠ some (.word "e.id") := by
  induction h generalizing rest with
  | alternative h ih => exact ih rest
  | or hLeft hRight ihLeft ihRight => rw [List.append_assoc]; exact ihLeft _
  | condition h ih => exact ih rest
  | and hLeft hRight ihLeft ihRight => rw [List.append_assoc]; exact ihLeft _
  | not h ih => simp
  | simple h ih => exact ih rest
  | position operator bound => simp
  | parenthesized h ih => simp
  | types h => simp
  | tag s => simp
  | yes => simp
  | no => simp

theorem Lists.eq_textTokens {ts : List Token} {types : List String} (h : Lists ts types) :
    types ≠ [] ∧ ts = textTokens types := by
  induction h with
  | one s => exact ⟨List.cons_ne_nil _ _, rfl⟩
  | @more s ts others h ih =>
      obtain ⟨hOthers, rfl⟩ := ih
      obtain ⟨t, others, rfl⟩ := List.exists_cons_of_ne_nil hOthers
      exact ⟨List.cons_ne_nil _ _, rfl⟩

/-- Whether a phrase is read wherever it may stand: one that can be carried on is read together with
what the loop behind it reads. -/
def Taken (total : Nat) : Phrase → List Token → Formula → Prop
  | .alternatives, ts, left => ∀ rest e final, rest.head? ≠ some (.word "AND") →
      Reads (moreAlternatives total left rest) e final →
        Reads (alternatives total (ts ++ rest)) e final
  | .conditions, ts, left => ∀ rest e final, Reads (moreConditions total left rest) e final →
      Reads (conditions total (ts ++ rest)) e final
  | .condition, ts, e | .simple, ts, e => ∀ rest, Reads (condition total (ts ++ rest)) e rest

theorem Denotes.taken {total : Nat} {phrase : Phrase} {ts : List Token} {e : Formula}
    (h : Denotes phrase ts e) : Taken total phrase ts e := by
  induction h with
  | alternative h ih =>
      intro rest e final hEnd hMore
      exact reads_alternatives (ih rest _ rest (reads_moreConditions_end _ rest hEnd)) hMore
  | or hLeft hRight ihLeft ihRight =>
      intro rest e final hEnd hMore
      rw [List.append_assoc, List.cons_append]
      have right := ihRight rest _ rest (reads_moreConditions_end _ rest hEnd)
      exact ihLeft _ e final (by simp) (reads_moreAlternatives_or right hMore)
  | condition h ih =>
      intro rest e final hMore
      exact reads_conditions (ih rest) hMore
  | and hLeft hRight ihLeft ihRight =>
      intro rest e final hMore
      rw [List.append_assoc, List.cons_append]
      exact ihLeft _ e final (reads_moreConditions_and (ihRight rest) hMore)
  | not h ih =>
      intro rest
      exact reads_condition_not (ih rest)
  | simple h ih => exact ih
  | position operator bound =>
      intro rest
      exact reads_condition_position operator bound rest
  | @parenthesized ts e h ih =>
      intro rest
      rw [List.cons_append, List.append_assoc]
      have inner := ih (.closeParen :: rest) _ _ (by simp) (reads_moreAlternatives_end e _ (by simp))
      exact reads_condition_parenthesized (h.head?_append _) inner
  | types h =>
      intro rest
      obtain ⟨hNonempty, rfl⟩ := h.eq_textTokens
      rw [List.cons_append, List.append_assoc]
      exact reads_condition_types _ rest hNonempty
  | tag s =>
      intro rest
      exact reads_condition_tag s rest
  | yes =>
      intro rest
      exact reads_condition_constant true rest
  | no =>
      intro rest
      exact reads_condition_constant false rest

/-- The reader accepts tokens, all of them, as the expressions that they denote. -/
theorem reads_parse_iff (ts : List Token) (e : Formula) :
    Reads (parse ts) e [] ↔ Denotes .alternatives ts e := by
  constructor
  · intro h
    obtain ⟨front, hFront, hDenotes⟩ := takes_alternatives ts e [] h
    rw [List.append_nil] at hFront
    exact hFront ▸ hDenotes
  · intro h
    have taken : Taken ts.length .alternatives ts e := h.taken
    have read := taken [] e [] (by simp) (reads_moreAlternatives_end e [] (by simp))
    rwa [List.append_nil] at read

end Clause

/-! ## Clauses of programs -/

namespace Statement
open Clause (Phrase Denotes Reads)

/-- A clause whose tokens denote nothing has no expression, and one whose tokens denote an expression
has that one. -/
theorem readClause_eq_ok_iff {clause : List Char} {ts : List Token}
    (hTokens : Token.listOf clause = .ok ts) (e : Formula) :
    readClause clause = .ok e ↔ Denotes .alternatives ts e := by
  rw [← Clause.reads_parse_iff]
  have read : readClause clause = ((Clause.parse ts).mapError Fault.badExpression).bind fun parsed =>
      if parsed.rest.isEmpty then .ok parsed.value
      else .error (.trailingTokens (String.ofList clause)) := by
    unfold readClause
    rw [hTokens]
    rfl
  rw [read]
  cases hParse : Clause.parse ts with
  | error fault =>
      constructor
      · intro h
        cases h
      · intro h
        exact absurd h (Clause.not_reads_error _ _ _)
  | ok parsed =>
      obtain ⟨value, rest, hShort⟩ := parsed
      cases rest with
      | nil =>
          constructor
          · intro h
            cases h
            exact ⟨_, rfl, rfl, rfl⟩
          · intro h
            rw [h.of_ok.1]
            rfl
      | cons t rest =>
          constructor
          · intro h
            cases h
          · intro h
            cases h.of_ok.2

/-- A text whose clause has tokens is understood as soon as the clause is. -/
theorem exists_clause_of_clauseTokens {text : String} {ts : List Token}
    (h : clauseTokens text = .ok (some ts)) :
    ∃ clause descending top projection, Token.listOf clause = .ok ts ∧
      ofText text = (readClause clause).map fun e => ⟨some e, descending, top, projection⟩ := by
  rw [ofText_eq_bind]
  unfold clauseTokens at h
  cases hParts : partsOf text with
  | error fault =>
      rw [hParts] at h
      cases h
  | ok parts =>
      obtain ⟨clause, descending, top, projection⟩ := parts
      simp only [hParts, bind, Except.bind] at h
      cases clause with
      | none => cases h
      | some clause =>
          refine ⟨clause, descending, top, projection, ?_, rfl⟩
          cases hTokens : Token.listOf clause with
          | error fault =>
              simp only [hTokens] at h
              cases h
          | ok tokens =>
              simp only [hTokens] at h
              cases h
              rfl

/-- The filter of a statement is what the tokens of its clause denote. -/
theorem ofText_filter_iff {text : String} {ts : List Token}
    (h : clauseTokens text = .ok (some ts)) (e : Formula) :
    (∃ s, ofText text = .ok s ∧ s.filter = some e) ↔ Denotes .alternatives ts e := by
  obtain ⟨clause, descending, top, projection, hTokens, whole⟩ := exists_clause_of_clauseTokens h
  rw [whole, ← readClause_eq_ok_iff hTokens]
  cases readClause clause with
  | error fault =>
      constructor
      · rintro ⟨_, hStatement, -⟩
        cases hStatement
      · intro h
        cases h
  | ok found =>
      constructor
      · rintro ⟨_, hStatement, hFilter⟩
        cases hStatement
        exact congrArg Except.ok (Option.some.inj hFilter)
      · intro h
        cases h
        exact ⟨_, rfl, rfl⟩

theorem run_rejected_iff {text : String} {ts : List Token}
    (h : clauseTokens text = .ok (some ts)) (log : MemoryLog) :
    (∃ reason, (log.run text).1 = .error (.rejected 400 reason)) ↔
      ¬ ∃ e, Denotes .alternatives ts e := by
  obtain ⟨clause, descending, top, projection, hTokens, whole⟩ := exists_clause_of_clauseTokens h
  simp only [← readClause_eq_ok_iff hTokens, MemoryLog.run, MemoryLog.answer, whole]
  cases readClause clause with
  | error fault =>
      constructor
      · rintro - ⟨e, hRead⟩
        cases hRead
      · intro _
        exact ⟨fault.message, rfl⟩
  | ok e =>
      constructor
      · rintro ⟨reason, hRejected⟩
        cases hRejected
      · intro hNone
        exact absurd ⟨e, rfl⟩ hNone

/-- Tokens, all of them, are read as an expression if and only if they denote it by the grammar, and
they denote one expression at most.  A program whose clause has tokens is understood with the
expression that they denote as its filter, and rejected if and only if they denote none. -/
theorem clause_is_read_by_grammar :
    (∀ ts e, Reads (Clause.parse ts) e [] ↔ Denotes .alternatives ts e) ∧
    (∀ ts e other, Denotes .alternatives ts e → Denotes .alternatives ts other → e = other) ∧
    ∀ text ts, clauseTokens text = .ok (some ts) →
      (∀ e, (∃ s, ofText text = .ok s ∧ s.filter = some e) ↔ Denotes .alternatives ts e) ∧
      ∀ log : MemoryLog, (∃ reason, (log.run text).1 = .error (.rejected 400 reason)) ↔
        ¬ ∃ e, Denotes .alternatives ts e := by
  refine ⟨Clause.reads_parse_iff, ?_, ?_⟩
  · intro ts e other h hOther
    exact (((Clause.reads_parse_iff ts e).2 h).unique ((Clause.reads_parse_iff ts other).2 hOther)).1
  · intro text ts hTokens
    exact ⟨ofText_filter_iff hTokens, run_rejected_iff hTokens⟩

/-- Two alternatives, the second one a conjunction with a negation. -/
def mixedTokens : List Token :=
  [.word "true", .word "OR", .word "NOT", .word "false", .word "AND", .word "true"]

def mixedFormula : Formula :=
  .or (.constant true) (.and (.not (.constant false)) (.constant true))

/-- A program whose clause stops before its second condition. -/
def danglingText : String := "FROM e IN events WHERE (true AND) PROJECT INTO COUNT() == 0"

def danglingTokens : List Token := [.openParen, .word "true", .word "AND", .closeParen]

theorem clauseTokens_danglingText : clauseTokens danglingText = .ok (some danglingTokens) := by
  have found : (clauseTokens danglingText).toOption = some (some danglingTokens) := by
    decide +kernel
  cases hTokens : clauseTokens danglingText with
  | error fault =>
      rw [hTokens] at found
      cases found
  | ok tokens =>
      rw [hTokens] at found
      exact congrArg Except.ok (Option.some.inj found)

theorem mixed_clause_is_read_by_grammar :
    (Denotes .alternatives mixedTokens mixedFormula ∧
      ∀ e, Denotes .alternatives mixedTokens e → e = mixedFormula) ∧
    ∃ reason, (MemoryLog.empty.run danglingText).1 = .error (.rejected 400 reason) := by
  obtain ⟨reads, unique, programs⟩ := clause_is_read_by_grammar
  have conjunction : Denotes .conditions [.word "NOT", .word "false", .word "AND", .word "true"]
      (.and (.not (.constant false)) (.constant true)) :=
    .and (.condition (.not (.simple .no))) (.simple .yes)
  have denotes : Denotes .alternatives mixedTokens mixedFormula :=
    .or (.alternative (.condition (.simple .yes))) conjunction
  refine ⟨⟨denotes, fun e h => unique _ _ _ h denotes⟩, ?_⟩
  apply ((programs _ _ clauseTokens_danglingText).2 .empty).2
  rintro ⟨e, hDenotes⟩
  have failed : (Clause.parse danglingTokens).toOption.isNone = true := by decide +kernel
  obtain ⟨parsed, hParse, -⟩ := (reads danglingTokens e).2 hDenotes
  rw [hParse] at failed
  cases failed

end Statement
end BoundaryLog
