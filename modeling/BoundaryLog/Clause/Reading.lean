import BoundaryLog.Clause.Formula

/-! # Reading expressions

`OR` binds weaker than `AND`, and both group to the left; `NOT` binds strongest.  Every step takes
at least one token, which the result of each function records: what is left is shorter than what
was given.  A parenthesis before `e.id` always starts a comparison of positions. -/
set_option autoImplicit false
namespace BoundaryLog.Clause

/-- Why a list of tokens is not an expression. -/
inductive Fault where
  | unexpectedEnd
  | expected (token found : Token)
  | expectedComparison (found : Token)
  | expectedNumber (found : Token)
  | expectedText (found : Token)
  | expectedSeparator (found : Token)
  | unexpectedToken (found : Token) (taken : Nat)
  deriving DecidableEq

def Fault.message : Fault → String
  | .unexpectedEnd => "unexpected end of expression"
  | .expected token found => "expected " ++ token.listing ++ ", found " ++ found.listing
  | .expectedComparison found => "expected comparison, found " ++ found.listing
  | .expectedNumber found => "expected number, found " ++ found.listing
  | .expectedText found => "expected string, found " ++ found.listing
  | .expectedSeparator found => "expected , or ], found " ++ found.listing
  | .unexpectedToken found taken =>
      "unexpected token " ++ found.listing ++ " at " ++ toString taken

/-- A value read from the front of a list of tokens, with what is left of them. -/
structure Parsed (α : Type) (bound : Nat) where
  value : α
  rest : List Token
  shorter : rest.length < bound

/-- What was read from a part of the tokens was read from all of them. -/
def Parsed.within {α : Type} {small : Nat} (large : Nat) (p : Parsed α small)
    (h : small ≤ large) : Parsed α large :=
  ⟨p.value, p.rest, Nat.lt_of_lt_of_le p.shorter h⟩

def expectAll : (tokens ts : List Token) → Except Fault (Parsed Unit (ts.length + 1))
  | [], ts => .ok ⟨(), ts, Nat.lt_succ_self _⟩
  | _ :: _, [] => .error .unexpectedEnd
  | token :: tokens, t :: ts =>
      if t = token then do
        let p ← expectAll tokens ts
        return p.within _ (Nat.le_succ _)
      else .error (.expected token t)

/-- The tokens of the position of the scanned event, after the parenthesis. -/
def positionTokens : List Token :=
  [.word "e.id", .word "AS", .word "INT", .plus, .number .one, .closeParen]

def comparison : (ts : List Token) → Except Fault (Parsed Formula (ts.length + 1))
  | [] => .error .unexpectedEnd
  | .op _ :: [] => .error .unexpectedEnd
  | .op operator :: .number bound :: rest =>
      .ok ⟨.position operator bound, rest, by simp only [List.length_cons]; omega⟩
  | .op _ :: t :: _ => .error (.expectedNumber t)
  | t :: _ => .error (.expectedComparison t)

/-- A comparison of positions, after the parenthesis. -/
def positionTest (ts : List Token) : Except Fault (Parsed Formula (ts.length + 1)) := do
  let expression ← expectAll positionTokens ts
  let test ← comparison expression.rest
  return test.within _ expression.shorter

/-- Quoted texts with commas between them, up to the closing bracket. -/
def texts : (ts : List Token) → Except Fault (Parsed (List String) (ts.length + 1))
  | [] => .error .unexpectedEnd
  | .text _ :: [] => .error .unexpectedEnd
  | .text s :: .comma :: rest => do
      let more ← texts rest
      return ⟨s :: more.value, more.rest, by
        have := more.shorter
        simp only [List.length_cons]
        omega⟩
  | .text s :: .closeBracket :: rest =>
      .ok ⟨[s], rest, by simp only [List.length_cons]; omega⟩
  | .text _ :: t :: _ => .error (.expectedSeparator t)
  | t :: _ => .error (.expectedText t)

def typeTest (ts : List Token) : Except Fault (Parsed Formula (ts.length + 1)) := do
  let types ← texts ts
  let field ← expectAll [.word "CONTAINS", .word "e.type"] types.rest
  return ⟨.typeIn types.value, field.rest, Nat.lt_of_lt_of_le field.shorter types.shorter⟩

def tag : (ts : List Token) → Except Fault (Parsed Formula (ts.length + 1))
  | [] => .error .unexpectedEnd
  | .text s :: rest => .ok ⟨.hasTag s, rest, by simp only [List.length_cons]; omega⟩
  | t :: _ => .error (.expectedText t)

def tagTest (ts : List Token) : Except Fault (Parsed Formula (ts.length + 1)) := do
  let sign ← expectAll [.word "CONTAINS"] ts
  let test ← tag sign.rest
  return test.within _ sign.shorter

mutual

/-- Alternatives.  The number of tokens of the whole clause is carried along so that a fault can
say where it is. -/
def alternatives (total : Nat) (ts : List Token) : Except Fault (Parsed Formula ts.length) := do
  let first ← conditions total ts
  let all ← moreAlternatives total first.value first.rest
  return all.within _ first.shorter
termination_by 4 * ts.length + 3
decreasing_by
  · exact Nat.lt_succ_self _
  · have := first.shorter
    omega

/-- Further alternatives after those read so far. -/
def moreAlternatives (total : Nat) (left : Formula) (ts : List Token) :
    Except Fault (Parsed Formula (ts.length + 1)) :=
  match ts with
  | [] => .ok ⟨left, [], Nat.lt_succ_self _⟩
  | t :: rest =>
      if t = .word "OR" then do
        let right ← conditions total rest
        let all ← moreAlternatives total (.or left right.value) right.rest
        return all.within _ (by have := right.shorter; simp only [List.length_cons]; omega)
      else .ok ⟨left, t :: rest, Nat.lt_succ_self _⟩
termination_by 4 * ts.length
decreasing_by
  · simp only [List.length_cons]
    omega
  · have := right.shorter
    simp only [List.length_cons]
    omega

def conditions (total : Nat) (ts : List Token) : Except Fault (Parsed Formula ts.length) := do
  let first ← condition total ts
  let all ← moreConditions total first.value first.rest
  return all.within _ first.shorter
termination_by 4 * ts.length + 2
decreasing_by
  · exact Nat.lt_succ_self _
  · have := first.shorter
    omega

/-- Further conditions after those read so far. -/
def moreConditions (total : Nat) (left : Formula) (ts : List Token) :
    Except Fault (Parsed Formula (ts.length + 1)) :=
  match ts with
  | [] => .ok ⟨left, [], Nat.lt_succ_self _⟩
  | t :: rest =>
      if t = .word "AND" then do
        let right ← condition total rest
        let all ← moreConditions total (.and left right.value) right.rest
        return all.within _ (by have := right.shorter; simp only [List.length_cons]; omega)
      else .ok ⟨left, t :: rest, Nat.lt_succ_self _⟩
termination_by 4 * ts.length
decreasing_by
  · simp only [List.length_cons]
    omega
  · have := right.shorter
    simp only [List.length_cons]
    omega

def condition (total : Nat) (ts : List Token) : Except Fault (Parsed Formula ts.length) :=
  match ts with
  | [] => .error .unexpectedEnd
  | t :: rest =>
      if t = .word "NOT" then do
        let operand ← condition total rest
        return ⟨.not operand.value, operand.rest, Nat.lt_succ_of_lt operand.shorter⟩
      else simple total t rest
termination_by 4 * ts.length + 1
decreasing_by
  · simp only [List.length_cons]
    omega
  · exact Nat.lt_succ_self _

/-- A condition that starts with the given token. -/
def simple (total : Nat) (t : Token) (rest : List Token) :
    Except Fault (Parsed Formula (rest.length + 1)) :=
  match t with
  | .openParen =>
      if rest.head? = some (.word "e.id") then positionTest rest
      else do
        let inner ← alternatives total rest
        let close ← expectAll [.closeParen] inner.rest
        return ⟨inner.value, close.rest, by
          have := inner.shorter
          have := close.shorter
          omega⟩
  | .openBracket => typeTest rest
  | .word w =>
      if w = "e.data.tags" then tagTest rest
      else if w = "true" then .ok ⟨.constant true, rest, Nat.lt_succ_self _⟩
      else if w = "false" then .ok ⟨.constant false, rest, Nat.lt_succ_self _⟩
      else .error (.unexpectedToken (.word w) (total - rest.length))
  | t => .error (.unexpectedToken t (total - rest.length))
termination_by 4 * (rest.length + 1)
decreasing_by
  omega

end

/-- The expression at the front of the tokens, with what is left of them. -/
def parse (ts : List Token) : Except Fault (Parsed Formula ts.length) := alternatives ts.length ts

end BoundaryLog.Clause
