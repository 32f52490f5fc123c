import BoundaryLog.Count
import BoundaryLog.Text.Join
import BoundaryLog.Text.Quoted
import BoundaryLog.Failure

/-! # Predicates on stored events

A predicate is a tree over the type, the tags and the position of a stored event.  `holds` says
what it means and `render` writes it in the query language.  Writing fails exactly when a text in
the tree cannot stand between quotes, and then names the first such text from left to right. -/
set_option autoImplicit false
namespace BoundaryLog

/-- How a position is compared with a bound. -/
inductive Comparison where
  | greaterThan
  | atLeast
  | atMost
  deriving DecidableEq

namespace Comparison

def symbol : Comparison → String
  | .greaterThan => ">"
  | .atLeast => ">="
  | .atMost => "<="

def holds : Comparison → Nat → Nat → Bool
  | .greaterThan, position, bound => decide (bound < position)
  | .atLeast, position, bound => decide (bound ≤ position)
  | .atMost, position, bound => decide (position ≤ bound)

end Comparison

inductive Predicate where
  | always
  | typeIn (types : List String)
  | hasTag (tag : String)
  | position (comparison : Comparison) (bound : Count)
  | and (operands : List Predicate)
  | or (operands : List Predicate)
  | not (operand : Predicate)

/-- A text that cannot stand between quotes, with its first forbidden character. -/
structure BadLiteral where
  literal : String
  character : Char
  deriving DecidableEq

def BadLiteral.toFailure (bad : BadLiteral) : Failure :=
  .invalidLiteral bad.literal ("contains forbidden character " ++ Text.quotedChar bad.character)

namespace Predicate

/-- All of the operands; one operand stands for itself. -/
def conjunction : List Predicate → Predicate
  | [] => .always
  | [p] => p
  | ps => .and ps

/-- At least one of the operands; one operand stands for itself. -/
def disjunction : List Predicate → Predicate
  | [p] => p
  | ps => .or ps

/-! ## Meaning -/

mutual

/-- Whether a predicate is true of an event with the given stored type, tags and position. -/
def holds (type : String) (tags : List String) (place : Nat) : Predicate → Bool
  | .always => true
  | .typeIn types => types.contains type
  | .hasTag tag => tags.contains tag
  | .position comparison bound => comparison.holds place bound.value
  | .and operands => holdsAll type tags place operands
  | .or operands => holdsSome type tags place operands
  | .not operand => !holds type tags place operand

def holdsAll (type : String) (tags : List String) (place : Nat) : List Predicate → Bool
  | [] => true
  | p :: ps => holds type tags place p && holdsAll type tags place ps

def holdsSome (type : String) (tags : List String) (place : Nat) : List Predicate → Bool
  | [] => false
  | p :: ps => holds type tags place p || holdsSome type tags place ps

end

theorem holdsAll_eq_all (type : String) (tags : List String) (place : Nat) (ps : List Predicate) :
    holdsAll type tags place ps = ps.all (holds type tags place) := by
  induction ps with
  | nil => rfl
  | cons p ps ih => simp [holdsAll, ih]

theorem holdsSome_eq_any (type : String) (tags : List String) (place : Nat)
    (ps : List Predicate) : holdsSome type tags place ps = ps.any (holds type tags place) := by
  induction ps with
  | nil => rfl
  | cons p ps ih => simp [holdsSome, ih]

theorem holds_conjunction (type : String) (tags : List String) (place : Nat) (ps : List Predicate) :
    holds type tags place (conjunction ps) = ps.all (holds type tags place) := by
  match ps with
  | [] => rfl
  | [p] => simp [conjunction]
  | p :: q :: rest => simp [conjunction, holds, holdsAll_eq_all]

theorem holds_disjunction (type : String) (tags : List String) (place : Nat) (ps : List Predicate) :
    holds type tags place (disjunction ps) = ps.any (holds type tags place) := by
  match ps with
  | [] => rfl
  | [p] => simp [disjunction]
  | p :: q :: rest => simp [disjunction, holds, holdsSome_eq_any]

/-! ## Writing -/

/-- The characters that would end a quoted text early or hide in it. -/
def isForbidden (c : Char) : Bool := c == '"' || c == '\\' || Text.isControl c

def literal (s : String) : Except BadLiteral String :=
  match s.toList.find? isForbidden with
  | some c => .error ⟨s, c⟩
  | none => .ok ("\"" ++ s ++ "\"")

def literals : List String → Except BadLiteral (List String)
  | [] => .ok []
  | s :: rest => do
      let text ← literal s
      let texts ← literals rest
      return text :: texts

def parenthesized (s : String) : String := "(" ++ s ++ ")"

/-- Operands with a connective between them; none give the identity, one stands for itself. -/
def connected (connective identity : String) : List String → String
  | [] => identity
  | [x] => x
  | xs => Text.joinWith connective (xs.map parenthesized)

/-- The position of the scanned event. -/
def positionExpression : String := "(e.id AS INT + 1)"

mutual

def render : Predicate → Except BadLiteral String
  | .always => .ok "true"
  | .typeIn types => do
      let texts ← literals types
      return "[" ++ Text.joinWith "," texts ++ "] CONTAINS e.type"
  | .hasTag tag => do
      let text ← literal tag
      return "e.data.tags CONTAINS " ++ text
  | .position comparison bound =>
      .ok (positionExpression ++ " " ++ comparison.symbol ++ " " ++ bound.text)
  | .and operands => do
      let texts ← renderAll operands
      return connected " AND " "true" texts
  | .or operands => do
      let texts ← renderAll operands
      return connected " OR " "false" texts
  | .not operand => do
      let text ← render operand
      return "NOT " ++ parenthesized text

def renderAll : List Predicate → Except BadLiteral (List String)
  | [] => .ok []
  | p :: ps => do
      let text ← render p
      let texts ← renderAll ps
      return text :: texts

end

end Predicate
end BoundaryLog
