import BoundaryLog.Clause.Grammar
import BoundaryLog.Proofs.Rounds
import BoundaryLog.Proofs.Sessions

/-! # Reading expressions from place to place

The reader of expressions can also keep a place in a fixed list of tokens.  Written down that way it is
one function of what is to be read, where a further turn of a loop is a call too, and nothing says that
its calls come to an end.  They do: every call is for a later place, or for the same place and something
that binds stronger.  So calls that are nested four deep for each token that is left are enough, and then
the outcome is that of the reader, at a place that is later and not beyond the end.  A program therefore
always has an answer. -/
set_option autoImplicit false
namespace BoundaryLog
namespace Clause

/-! ## A reader that keeps a place -/

/-- What comes of a reading whose calls are nested so deep at most: nothing if that is not enough. -/
abbrev Descent := ExceptT Fault Option

/-- What can be read at a place: a phrase, or what carries on one that has been read so far. -/
inductive Task where
  | phrase (phrase : Phrase)
  | moreAlternatives (left : Formula)
  | moreConditions (left : Formula)
  | moreTypes (before : List String)

section Places
variable (tokens : List Token)

def nextAt (place : Nat) : Descent (Token × Nat) :=
  match tokens[place]? with
  | none => throw .unexpectedEnd
  | some t => return (t, place + 1)

def expectAt : List Token → Nat → Descent (Unit × Nat)
  | [], place => return ((), place)
  | token :: more, place => do
      let (t, place) ← nextAt tokens place
      if t = token then expectAt more place else throw (.expected token t)

def comparisonAt (place : Nat) : Descent (Formula × Nat) := do
  let (sign, place) ← nextAt tokens place
  let .op operator := sign | throw (.expectedComparison sign)
  let (number, place) ← nextAt tokens place
  let .number bound := number | throw (.expectedNumber number)
  return (.position operator bound, place)

def positionAt (place : Nat) : Descent (Formula × Nat) := do
  let (_, place) ← expectAt tokens positionTokens place
  comparisonAt tokens place

def tagAt (place : Nat) : Descent (Formula × Nat) := do
  let (t, place) ← nextAt tokens place
  let .text s := t | throw (.expectedText t)
  return (.hasTag s, place)

def tagTestAt (place : Nat) : Descent (Formula × Nat) := do
  let (_, place) ← expectAt tokens [.word "CONTAINS"] place
  tagAt tokens place

variable (read : Task → Nat → Descent (Formula × Nat))

/-- One turn of the loop over the types between brackets. -/
def typesAt (before : List String) (place : Nat) : Descent (Formula × Nat) := do
  let (t, place) ← nextAt tokens place
  let .text s := t | throw (.expectedText t)
  let (separator, place) ← nextAt tokens place
  match separator with
  | .comma => read (.moreTypes (before ++ [s])) place
  | .closeBracket => do
      let (_, place) ← expectAt tokens [.word "CONTAINS", .word "e.type"] place
      return (.typeIn (before ++ [s]), place)
  | other => throw (.expectedSeparator other)

/-- An operand and what carries it on. -/
def chainAt (operand : Phrase) (more : Formula → Task) (place : Nat) : Descent (Formula × Nat) := do
  let (first, place) ← read (.phrase operand) place
  read (more first) place

/-- One turn of a loop over operands with a word between them. -/
def moreAt (word : String) (operand : Phrase) (more : Formula → Task) (left : Formula)
    (place : Nat) : Descent (Formula × Nat) :=
  if tokens[place]? = some (.word word) then chainAt read operand more (place + 1)
  else return (left, place)

def conditionAt (place : Nat) : Descent (Formula × Nat) :=
  if tokens[place]? = some (.word "NOT") then do
    let (operand, place) ← read (.phrase .condition) (place + 1)
    return (.not operand, place)
  else read (.phrase .simple) place

/-- What starts with a token that has been read. -/
def simpleAfter (t : Token) (place : Nat) : Descent (Formula × Nat) :=
  match t with
  | .openParen =>
      if tokens[place]? = some (.word "e.id") then positionAt tokens place
      else do
        let (inner, place) ← read (.phrase .alternatives) place
        let (_, place) ← expectAt tokens [.closeParen] place
        return (inner, place)
  | .openBracket => read (.moreTypes []) place
  | .word w =>
      if w = "e.data.tags" then tagTestAt tokens place
      else if w = "true" then return (.constant true, place)
      else if w = "false" then return (.constant false, place)
      else throw (.unexpectedToken (.word w) place)
  | t => throw (.unexpectedToken t place)

def simpleAt (place : Nat) : Descent (Formula × Nat) := do
  let (t, place) ← nextAt tokens place
  simpleAfter tokens read t place

/-- One call of the reader; the calls that it makes go to the given one. -/
def visit : Task → Nat → Descent (Formula × Nat)
  | .phrase .alternatives => chainAt read .conditions .moreAlternatives
  | .moreAlternatives left =>
      moreAt tokens read "OR" .conditions (fun right => .moreAlternatives (.or left right)) left
  | .phrase .conditions => chainAt read .condition .moreConditions
  | .moreConditions left =>
      moreAt tokens read "AND" .condition (fun right => .moreConditions (.and left right)) left
  | .phrase .condition => conditionAt tokens read
  | .phrase .simple => simpleAt tokens read
  | .moreTypes before => typesAt tokens read before

end Places

/-- The reader with its calls nested so deep at most. -/
def descend (tokens : List Token) : Nat → Task → Nat → Descent (Formula × Nat)
  | 0, _, _ => none
  | depth + 1, task, place => visit tokens (descend tokens depth) task place

/-! ## Where a reading ends -/

/-- Whether the given tokens are those from a place on, which is not beyond the end. -/
structure Stands (tokens : List Token) (place : Nat) (ts : List Token) : Prop where
  left : tokens.drop place = ts
  inside : place ≤ tokens.length

section Standing
variable {tokens ts : List Token} {t : Token} {place : Nat}

theorem stands_of_drop (h : tokens.drop place = t :: ts) : Stands tokens (place + 1) ts :=
  ⟨(Token.drop_succ_of_drop h).2, (Token.drop_succ_of_drop h).1⟩

theorem Stands.place_eq (h : Stands tokens place ts) : tokens.length - ts.length = place := by
  have inside := h.inside
  rw [← h.left, List.length_drop]
  omega

theorem getElem?_of_drop (h : tokens.drop place = ts) : tokens[place]? = ts.head? := by
  rw [← h, List.head?_drop]

end Standing

/-- Whether a reading by places comes to the same as one of the tokens that are left. -/
inductive Lands {α : Type} (tokens : List Token) {bound : Nat} :
    Descent (α × Nat) → Except Fault (Parsed α bound) → Prop where
  | failed (fault : Fault) : Lands tokens (throw fault) (.error fault)
  | landed {a : α} {next : Nat} {rest : List Token} (stands : Stands tokens next rest)
      (shorter : rest.length < bound) : Lands tokens (pure (a, next)) (.ok ⟨a, rest, shorter⟩)

section Landing
variable {α β : Type} {tokens : List Token} {n m : Nat}

/-- What lands can be followed by another reading. -/
theorem Lands.bind {first : Descent (α × Nat)} {result : Except Fault (Parsed α n)}
    {more : α × Nat → Descent (β × Nat)} {next : Parsed α n → Except Fault (Parsed β m)}
    (hFirst : Lands tokens first result)
    (hMore : ∀ a place rest shorter, Stands tokens place rest →
      Lands tokens (more (a, place)) (next ⟨a, rest, shorter⟩)) :
    Lands tokens (first >>= more) (result >>= next) := by
  cases hFirst with
  | failed fault => exact .failed fault
  | landed stands shorter => exact hMore _ _ _ shorter stands

theorem Lands.within {reading : Descent (α × Nat)} {result : Except Fault (Parsed α n)}
    (h : Lands tokens reading result) (hLarge : n ≤ m) :
    Lands tokens reading (do let p ← result; return p.within m hLarge) := by
  cases h with
  | failed fault => exact .failed fault
  | landed stands shorter => exact .landed stands _

/-- A reading that takes a token first. -/
theorem lands_next {ts : List Token} {place : Nat} {more : Token × Nat → Descent (α × Nat)}
    {result : Except Fault (Parsed α n)} (hDrop : tokens.drop place = ts)
    (hEnd : ts = [] → result = .error .unexpectedEnd)
    (hMore : ∀ t rest, ts = t :: rest → Stands tokens (place + 1) rest →
      Lands tokens (more (t, place + 1)) result) :
    Lands tokens (nextAt tokens place >>= more) result := by
  rw [nextAt, getElem?_of_drop hDrop]
  cases ts with
  | nil =>
      rw [hEnd rfl]
      exact .failed _
  | cons t rest => exact hMore t rest rfl (stands_of_drop hDrop)

end Landing

/-! ## Fixed tokens and tests -/

section Leaves
variable {tokens ts : List Token} {place : Nat}

theorem lands_expectAt (expected : List Token) (stands : Stands tokens place ts) :
    Lands tokens (expectAt tokens expected place) (expectAll expected ts) := by
  induction expected generalizing place ts with
  | nil => cases ts <;> exact .landed stands _
  | cons token more ih =>
      refine lands_next stands.left (by rintro rfl; rfl) ?_
      rintro t rest rfl stands
      rw [expectAll]
      by_cases same : t = token
      · simp only [if_pos same]
        exact (ih stands).within _
      · simp only [if_neg same]
        exact .failed _

theorem lands_comparisonAt (stands : Stands tokens place ts) :
    Lands tokens (comparisonAt tokens place) (comparison ts) := by
  refine lands_next stands.left (by rintro rfl; rfl) ?_
  rintro sign rest rfl after
  cases sign with
  | op operator =>
      refine lands_next after.left (by rintro rfl; rfl) ?_
      rintro number rest rfl later
      cases number with
      | number bound => exact .landed later _
      | _ => exact .failed _
  | _ => exact .failed _

theorem lands_positionAt (stands : Stands tokens place ts) :
    Lands tokens (positionAt tokens place) (positionTest ts) := by
  refine (lands_expectAt positionTokens stands).bind ?_
  intro _ next rest shorter stands
  exact (lands_comparisonAt stands).within shorter

theorem lands_tagAt (stands : Stands tokens place ts) :
    Lands tokens (tagAt tokens place) (tag ts) := by
  refine lands_next stands.left (by rintro rfl; rfl) ?_
  rintro t rest rfl after
  cases t with
  | text s => exact .landed after _
  | _ => exact .failed _

theorem lands_tagTestAt (stands : Stands tokens place ts) :
    Lands tokens (tagTestAt tokens place) (tagTest ts) := by
  refine (lands_expectAt [.word "CONTAINS"] stands).bind ?_
  intro _ next rest shorter stands
  exact (lands_tagAt stands).within shorter

end Leaves

/-! ## What each call comes to -/

/-- What was read, taken for something else. -/
def Parsed.map {α β : Type} {bound : Nat} (f : α → β) (p : Parsed α bound) : Parsed β bound :=
  ⟨f p.value, p.rest, p.shorter⟩

/-- The test of the type whose first types have been read. -/
def typesFrom (before : List String) (ts : List Token) :
    Except Fault (Parsed Formula (ts.length + 1)) := do
  let types ← texts ts
  let field ← expectAll [.word "CONTAINS", .word "e.type"] types.rest
  return (field.within _ types.shorter).map fun _ => .typeIn (before ++ types.value)

theorem typesFrom_comma (before : List String) (s : String) (ts : List Token) :
    typesFrom before (.text s :: .comma :: ts) = (do
      let test ← typesFrom (before ++ [s]) ts
      return test.within _ (Nat.le_add_right _ 2)) := by
  simp only [typesFrom, texts, bind_assoc, pure_bind]
  cases texts ts with
  | error fault => rfl
  | ok more =>
      cases hField : expectAll [.word "CONTAINS", .word "e.type"] more.rest with
      | error fault => simp only [hField, bind, Except.bind]
      | ok field => simp [hField, bind, Except.bind, pure, Except.pure, Parsed.within, Parsed.map]

/-- What starts with any token. -/
def simpleOf (total : Nat) : (ts : List Token) → Except Fault (Parsed Formula ts.length)
  | [] => .error .unexpectedEnd
  | t :: rest => simple total t rest

/-- Whether a reading does what the reader does with the tokens that are left.  The loops over operands
may take no token at all, so their place must not be beyond the end. -/
def Task.Agrees (tokens : List Token) (place : Nat) (ts : List Token)
    (reading : Descent (Formula × Nat)) : Task → Prop
  | .phrase .alternatives => Lands tokens reading (alternatives tokens.length ts)
  | .phrase .conditions => Lands tokens reading (conditions tokens.length ts)
  | .phrase .condition => Lands tokens reading (condition tokens.length ts)
  | .phrase .simple => Lands tokens reading (simpleOf tokens.length ts)
  | .moreAlternatives left =>
      place ≤ tokens.length → Lands tokens reading (Clause.moreAlternatives tokens.length left ts)
  | .moreConditions left =>
      place ≤ tokens.length → Lands tokens reading (Clause.moreConditions tokens.length left ts)
  | .moreTypes before => Lands tokens reading (typesFrom before ts)

/-- How deep the calls for a task are nested at most, with the number of tokens left. -/
def Task.rank (left : Nat) : Task → Nat
  | .phrase .alternatives => 4 * left + 3
  | .phrase .conditions => 4 * left + 2
  | .phrase .condition => 4 * left + 1
  | .phrase .simple | .moreAlternatives _ | .moreConditions _ | .moreTypes _ => 4 * left

theorem Task.rank_lt (left : Nat) (task : Task) : task.rank left < 4 * left + 4 := by
  cases task with
  | phrase phrase => cases phrase <;> simp [rank]
  | _ => simp [rank]

/-- Whether all calls of a lower rank do what the reader does. -/
def Reliable (tokens : List Token) (bound : Nat) (read : Task → Nat → Descent (Formula × Nat)) :
    Prop :=
  ∀ (task : Task) (place : Nat) (ts : List Token), tokens.drop place = ts →
    task.rank ts.length < bound → task.Agrees tokens place ts (read task place)

section Calls
variable {tokens ts : List Token} {bound place : Nat} {read : Task → Nat → Descent (Formula × Nat)}
  (reliable : Reliable tokens bound read) (hDrop : tokens.drop place = ts)

include hDrop in
/-- A turn of a loop either takes its word and an operand or ends the loop. -/
theorem lands_moreAt {word : String} {operand : Phrase} {more : Formula → Task} {left : Formula}
    {result : Except Fault (Parsed Formula (ts.length + 1))} (inside : place ≤ tokens.length)
    (hTurn : ∀ rest, ts = .word word :: rest →
      Lands tokens (chainAt read operand more (place + 1)) result)
    (hEnd : ts.head? ≠ some (.word word) → result = .ok ⟨left, ts, Nat.lt_succ_self _⟩) :
    Lands tokens (moreAt tokens read word operand more left place) result := by
  rw [moreAt, getElem?_of_drop hDrop]
  by_cases same : ts.head? = some (.word word)
  · rw [if_pos same]
    obtain ⟨rest, hRest⟩ := List.head?_eq_some_iff.1 same
    exact hTurn rest hRest
  · rw [if_neg same, hEnd same]
    exact .landed ⟨hDrop, inside⟩ _

include reliable hDrop

theorem agrees_alternatives (hRank : 4 * ts.length + 3 ≤ bound) :
    Lands tokens (chainAt read .conditions .moreAlternatives place)
      (alternatives tokens.length ts) := by
  rw [alternatives]
  refine (reliable (.phrase .conditions) place ts hDrop hRank).bind ?_
  intro first next rest shorter stands
  -- The operand took a token, which makes up for what the loop behind it may nest.
  have hMore : 4 * rest.length < bound := by omega
  exact (reliable (.moreAlternatives first) next rest stands.left hMore stands.inside).within _

theorem agrees_conditions (hRank : 4 * ts.length + 2 ≤ bound) :
    Lands tokens (chainAt read .condition .moreConditions place)
      (conditions tokens.length ts) := by
  rw [conditions]
  refine (reliable (.phrase .condition) place ts hDrop hRank).bind ?_
  intro first next rest shorter stands
  have hMore : 4 * rest.length < bound := by omega
  exact (reliable (.moreConditions first) next rest stands.left hMore stands.inside).within _

theorem agrees_moreAlternatives (left : Formula) (inside : place ≤ tokens.length)
    (hRank : 4 * ts.length ≤ bound) :
    Lands tokens (moreAt tokens read "OR" .conditions
      (fun right => .moreAlternatives (.or left right)) left place)
      (moreAlternatives tokens.length left ts) := by
  refine lands_moreAt hDrop inside ?_ ?_
  · rintro rest rfl
    rw [List.length_cons] at hRank
    rw [moreAlternatives, if_pos rfl]
    have stands := stands_of_drop hDrop
    have hOperand : 4 * rest.length + 2 < bound := by omega
    refine (reliable (.phrase .conditions) (place + 1) rest stands.left hOperand).bind ?_
    intro right next middle shorter stands
    have hMore : 4 * middle.length < bound := by omega
    exact (reliable (.moreAlternatives (.or left right)) next middle stands.left hMore
      stands.inside).within _
  · intro other
    cases ts with
    | nil => rw [moreAlternatives]
    | cons t rest => rw [moreAlternatives, if_neg fun same => other (congrArg some same)]

theorem agrees_moreConditions (left : Formula) (inside : place ≤ tokens.length)
    (hRank : 4 * ts.length ≤ bound) :
    Lands tokens (moreAt tokens read "AND" .condition
      (fun right => .moreConditions (.and left right)) left place)
      (moreConditions tokens.length left ts) := by
  refine lands_moreAt hDrop inside ?_ ?_
  · rintro rest rfl
    rw [List.length_cons] at hRank
    rw [moreConditions, if_pos rfl]
    have stands := stands_of_drop hDrop
    have hOperand : 4 * rest.length + 1 < bound := by omega
    refine (reliable (.phrase .condition) (place + 1) rest stands.left hOperand).bind ?_
    intro right next middle shorter stands
    have hMore : 4 * middle.length < bound := by omega
    exact (reliable (.moreConditions (.and left right)) next middle stands.left hMore
      stands.inside).within _
  · intro other
    cases ts with
    | nil => rw [moreConditions]
    | cons t rest => rw [moreConditions, if_neg fun same => other (congrArg some same)]

theorem agrees_condition (hRank : 4 * ts.length + 1 ≤ bound) :
    Lands tokens (conditionAt tokens read place) (condition tokens.length ts) := by
  rw [conditionAt, getElem?_of_drop hDrop]
  have simply := reliable (.phrase .simple) place ts hDrop hRank
  cases ts with
  | nil =>
      rw [if_neg nofun, condition]
      exact simply
  | cons t rest =>
      rw [condition, List.head?_cons]
      by_cases same : t = .word "NOT"
      · rw [if_pos same, if_pos (congrArg some same)]
        rw [List.length_cons] at hRank
        have stands := stands_of_drop hDrop
        have hOperand : 4 * rest.length + 1 < bound := by omega
        refine (reliable (.phrase .condition) (place + 1) rest stands.left hOperand).bind ?_
        intro operand next left shorter stands
        exact .landed stands _
      · rw [if_neg same, if_neg fun h => same (Option.some.inj h)]
        exact simply

theorem agrees_types (before : List String) (hRank : 4 * ts.length ≤ bound) :
    Lands tokens (typesAt tokens read before place) (typesFrom before ts) := by
  refine lands_next hDrop (by rintro rfl; rfl) ?_
  rintro t rest rfl after
  cases t with
  | text s =>
      refine lands_next after.left (by rintro rfl; rfl) ?_
      rintro separator rest rfl later
      simp only [List.length_cons] at hRank
      cases separator with
      | comma =>
          rw [typesFrom_comma]
          have hMore : 4 * rest.length < bound := by omega
          exact (reliable (.moreTypes (before ++ [s])) _ rest later.left hMore).within _
      | closeBracket =>
          refine (lands_expectAt [.word "CONTAINS", .word "e.type"] later).bind ?_
          intro _ next left shorter stands
          exact .landed stands _
      | _ => exact .failed _
  | _ => exact .failed _

omit hDrop in
theorem lands_simpleAfter (t : Token) (stands : Stands tokens place ts)
    (hRank : 4 * ts.length + 3 < bound) :
    Lands tokens (simpleAfter tokens read t place) (simple tokens.length t ts) := by
  cases t with
  | openParen =>
      rw [simpleAfter, simple, getElem?_of_drop stands.left]
      by_cases hPosition : ts.head? = some (.word "e.id")
      · rw [if_pos hPosition, if_pos hPosition]
        exact lands_positionAt stands
      · rw [if_neg hPosition, if_neg hPosition]
        refine (reliable (.phrase .alternatives) place ts stands.left hRank).bind ?_
        intro inner next middle shorter stands
        refine (lands_expectAt [.closeParen] stands).bind ?_
        intro _ next left shorter stands
        exact .landed stands _
  | openBracket =>
      -- Before the first type `typesFrom` is the whole test.
      rw [simple]
      have hTypes : 4 * ts.length < bound := by omega
      exact reliable (.moreTypes []) place ts stands.left hTypes
  | word w =>
      rw [simpleAfter, simple, stands.place_eq]
      by_cases hTags : w = "e.data.tags"
      · rw [if_pos hTags, if_pos hTags]
        exact lands_tagTestAt stands
      · rw [if_neg hTags, if_neg hTags]
        by_cases hYes : w = "true"
        · rw [if_pos hYes, if_pos hYes]
          exact .landed stands _
        · rw [if_neg hYes, if_neg hYes]
          by_cases hNo : w = "false"
          · rw [if_pos hNo, if_pos hNo]
            exact .landed stands _
          · rw [if_neg hNo, if_neg hNo]
            exact .failed _
  | _ =>
      simp only [simple, stands.place_eq]
      exact .failed _

theorem agrees_simple (hRank : 4 * ts.length ≤ bound) :
    Lands tokens (simpleAt tokens read place) (simpleOf tokens.length ts) := by
  refine lands_next hDrop (by rintro rfl; rfl) ?_
  rintro t rest rfl stands
  rw [List.length_cons] at hRank
  exact lands_simpleAfter reliable t stands (by omega)

/-- One call does what the reader does if all calls of a lower rank do. -/
theorem agrees_visit (task : Task) (hRank : task.rank ts.length ≤ bound) :
    task.Agrees tokens place ts (visit tokens read task place) := by
  cases task with
  | phrase phrase =>
      cases phrase with
      | alternatives => exact agrees_alternatives reliable hDrop hRank
      | conditions => exact agrees_conditions reliable hDrop hRank
      | condition => exact agrees_condition reliable hDrop hRank
      | simple => exact agrees_simple reliable hDrop hRank
  | moreAlternatives left =>
      exact fun inside => agrees_moreAlternatives reliable hDrop left inside hRank
  | moreConditions left =>
      exact fun inside => agrees_moreConditions reliable hDrop left inside hRank
  | moreTypes before => exact agrees_types reliable hDrop before hRank

end Calls

/-! ## All calls -/

theorem reliable_descend (tokens : List Token) (depth : Nat) :
    Reliable tokens depth (descend tokens depth) := by
  induction depth with
  | zero => exact fun task place ts hDrop hRank => absurd hRank (Nat.not_lt_zero _)
  | succ depth ih =>
      intro task place ts hDrop hRank
      exact agrees_visit ih hDrop task (Nat.le_of_lt_succ hRank)

/-- What was read, with the place where it ends. -/
def landing (tokens : List Token) {bound : Nat} (p : Parsed Formula bound) : Formula × Nat :=
  (p.value, tokens.length - p.rest.length)

/-- The phrase at a place, with the place after it. -/
def Phrase.readAt (tokens : List Token) (place : Nat) : Phrase → Except Fault (Formula × Nat)
  | .alternatives =>
      (Clause.alternatives tokens.length (tokens.drop place)).map (landing tokens)
  | .conditions => (Clause.conditions tokens.length (tokens.drop place)).map (landing tokens)
  | .condition => (Clause.condition tokens.length (tokens.drop place)).map (landing tokens)
  | .simple => (simpleOf tokens.length (tokens.drop place)).map (landing tokens)

theorem Lands.run_eq {tokens : List Token} {bound : Nat} {reading : Descent (Formula × Nat)}
    {result : Except Fault (Parsed Formula bound)} (h : Lands tokens reading result) :
    reading.run = some (result.map (landing tokens)) := by
  cases h with
  | failed fault => rfl
  | landed stands shorter =>
      rw [← stands.place_eq]
      rfl

section Readings
variable (tokens : List Token) (place : Nat) (phrase : Phrase)

theorem descend_phrase (depth : Nat) (hDepth : 4 * (tokens.length - place) + 4 ≤ depth) :
    (descend tokens depth (.phrase phrase) place).run = some (phrase.readAt tokens place) := by
  have hRank : (Task.phrase phrase).rank (tokens.drop place).length < depth := by
    rw [List.length_drop]
    exact Nat.lt_of_lt_of_le (Task.rank_lt _ _) hDepth
  have agrees := reliable_descend tokens depth (.phrase phrase) place _ rfl hRank
  cases phrase <;> exact Lands.run_eq agrees

/-- What was read from the tokens at a place leaves fewer of them, so it ends at a later place. -/
theorem landing_advances (p : Parsed Formula (tokens.drop place).length) :
    place < (landing tokens p).2 ∧ (landing tokens p).2 ≤ tokens.length := by
  have shorter : p.rest.length < tokens.length - place :=
    Nat.lt_of_lt_of_eq p.shorter List.length_drop
  unfold landing
  constructor <;> omega

theorem readAt_advances {e : Formula} {next : Nat} (h : phrase.readAt tokens place = .ok (e, next)) :
    place < next ∧ next ≤ tokens.length := by
  have ends : ∀ result : Except Fault (Parsed Formula (tokens.drop place).length),
      result.map (landing tokens) = .ok (e, next) → place < next ∧ next ≤ tokens.length := by
    intro result hResult
    cases result with
    | error fault => cases hResult
    | ok p =>
        have same : landing tokens p = (e, next) := Except.ok.inj hResult
        have advances := landing_advances tokens place p
        rw [same] at advances
        exact advances
  cases phrase <;> exact ends _ h

end Readings
end Clause

/-! ## Programs -/

namespace MemoryLog
variable (program : String) (log : MemoryLog)

theorem answer_cases (records : List Record) :
    (∃ rows, answer program records = .ok rows) ∨
      ∃ reason, answer program records = .error (.rejected 400 reason) := by
  unfold answer
  cases Statement.ofText program with
  | error fault => exact .inr ⟨fault.message, rfl⟩
  | ok statement => exact .inl ⟨statement.run records, rfl⟩

/-- A program that is evaluated has rows as its answer or is refused, and is noted. -/
theorem query_cases (h : log.heldRows = none) :
    ((∃ rows : List Json, (Backend.query program log).1 = .ok (rows.map .ok)) ∨
        ∃ reason, (Backend.query program log).1 = .error (.rejected 400 reason)) ∧
      (Backend.query program log).2 = { log with programs := log.programs ++ [program] } := by
  have query := log.query_of_unheld program h
  constructor
  · change (∃ rows : List Json, (log.query program).1.map (List.map Except.ok) = _) ∨
      ∃ reason, (log.query program).1.map (List.map Except.ok) = _
    rw [query]
    obtain ⟨rows, hRows⟩ | ⟨reason, hReason⟩ := answer_cases program log.records
    · exact .inl ⟨rows, congrArg (Except.map _) hRows⟩
    · exact .inr ⟨reason, congrArg (Except.map _) hReason⟩
  · change (log.query program).2 = _
    rw [query]

end MemoryLog

section Progress
open Clause

/-- Reading always advances, and so it always ends.  The loop over a text ends after as many rounds as
there are characters, and each of them leads to a later place that is not beyond the end.  A phrase of
any kind, at any place of any tokens, is read with calls that are nested four deep for each token left,
and a reading that succeeds ends at a later place that is not beyond the end.  So a text of any kind is
answered with rows or refused, if no rows are held, and the records stay. -/
theorem reading_advances :
    (∀ text : List Char, Token.rounds text text.length 0 [] = some (Token.listOf text)) ∧
      (∀ (text : List Char) (place : Nat) (h : place < text.length) (token : Option Token)
        (next : Nat), Token.round text place h = .ok (token, next) →
          place < next ∧ next ≤ text.length) ∧
      (∀ (tokens : List Token) (phrase : Phrase) (place depth : Nat),
        4 * (tokens.length - place) + 4 ≤ depth →
          (descend tokens depth (.phrase phrase) place).run = some (phrase.readAt tokens place)) ∧
      (∀ (tokens : List Token) (phrase : Phrase) (place : Nat) (e : Formula) (next : Nat),
        phrase.readAt tokens place = .ok (e, next) → place < next ∧ next ≤ tokens.length) ∧
      ∀ (program : String) (log : MemoryLog), log.heldRows = none →
        ((∃ rows : List Json, (Backend.query program log).1 = .ok (rows.map .ok)) ∨
            ∃ reason, (Backend.query program log).1 = .error (.rejected 400 reason)) ∧
          (Backend.query program log).2 = { log with programs := log.programs ++ [program] } := by
  refine ⟨?_, ?_, ?_, ?_, ?_⟩
  · intro text
    rw [Token.rounds_eq text text.length 0 [] (Nat.le_add_left _ _), List.drop_zero]
    cases Token.listOf text <;> rfl
  · intro text place h token next hRound
    exact Token.round_advances h hRound
  · intro tokens phrase place depth hDepth
    exact descend_phrase tokens place phrase depth hDepth
  · intro tokens phrase place e next hRead
    exact readAt_advances tokens place phrase hRead
  · intro program log hHeld
    exact log.query_cases program hHeld

/-- A quote and a list of types that are not closed, a denial of nothing and of something, and a
program whose filter breaks off. -/
theorem broken_readings_end :
    Token.rounds ['"', 'a', ' '] 3 0 [] = some (.error .unterminatedText) ∧
      Token.round ['a', '.', ' '] 0 (by decide) = .ok (some (.word "a."), 2) ∧ 0 < 2 ∧ 2 ≤ 3 ∧
      (descend [.openBracket] 8 (.phrase .simple) 0).run = some (.error .unexpectedEnd) ∧
      (descend [.word "NOT", .word "NOT"] 12 (.phrase .alternatives) 0).run =
        some (.error .unexpectedEnd) ∧
      Phrase.readAt [.word "NOT", .word "true"] 0 .condition = .ok (.not (.constant true), 2) ∧
      0 < 2 ∧ 2 ≤ 2 ∧
      (Backend.query "FROM e IN events WHERE [ PROJECT INTO e.id" MemoryLog.empty).2 =
        ⟨[], ["FROM e IN events WHERE [ PROJECT INTO e.id"], none⟩ := by
  obtain ⟨hRounds, hRound, hDescend, hRead, hQuery⟩ := reading_advances
  have word : Token.round ['a', '.', ' '] 0 (by decide) = .ok (some (.word "a."), 2) := by
    decide +kernel
  have denial : Phrase.readAt [.word "NOT", .word "true"] 0 .condition =
      .ok (.not (.constant true), 2) := by decide +kernel
  exact ⟨(hRounds _).trans (by decide +kernel), word, (hRound _ _ _ _ _ word).1,
    (hRound _ _ _ _ _ word).2, (hDescend _ _ _ _ (by decide)).trans (by decide +kernel),
    (hDescend _ _ _ _ (by decide)).trans (by decide +kernel), denial, (hRead _ _ _ _ _ denial).1,
    (hRead _ _ _ _ _ denial).2, (hQuery _ _ rfl).2⟩

end Progress
end BoundaryLog
