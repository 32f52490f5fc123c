import BoundaryLog.Clause.Token

/-! # Expressions of a clause

What a clause means: a Boolean combination of tests on the type, the tags and the position of a
stored event. -/
set_option autoImplicit false
namespace BoundaryLog

/-- A test on a stored event. -/
inductive Formula where
  | constant (value : Bool)
  | typeIn (types : List String)
  | hasTag (tag : String)
  | position (operator : Operator) (bound : Count)
  | and (left right : Formula)
  | or (left right : Formula)
  | not (operand : Formula)
  deriving DecidableEq

/-- The value of an expression at an event with the given stored type, tags and position. -/
def Formula.eval (type : String) (tags : List String) (place : Nat) : Formula → Bool
  | .constant value => value
  | .typeIn types => types.contains type
  | .hasTag tag => tags.contains tag
  | .position operator bound => operator.holds place bound.value
  | .and left right => left.eval type tags place && right.eval type tags place
  | .or left right => left.eval type tags place || right.eval type tags place
  | .not operand => !operand.eval type tags place

end BoundaryLog
