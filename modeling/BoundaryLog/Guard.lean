import BoundaryLog.Query.Plan

/-! # Guards

A guard goes with a write: the database writes only if the program of the guard answers yes.  The
boundary of an append becomes a guard that no selected event exists, or none after the expected
position. -/
set_option autoImplicit false
namespace BoundaryLog

structure Guard where
  kind : String
  program : String
  deriving DecidableEq

/-- The only kind of guard that the database knows. -/
def Guard.queryKind : String := "isEventQlQueryTrue"

/-- The guard that a program answers yes. -/
def Guard.isTrue (program : String) : Guard := ⟨queryKind, program⟩

namespace Expectation

/-- Whether the selected events do not matter. -/
def isAny : Expectation → Bool
  | .any => true
  | _ => false

/-- The filter for the events that would contradict the expectation. -/
def laterFilter : Expectation → Option Predicate
  | .exactly p => some (.position .greaterThan p.count)
  | _ => Option.none

end Expectation

namespace Boundary

/-- The program that answers whether the selected events are as expected. -/
def program (typePrefix : String) (boundary : Boundary) : Except Failure Program := do
  let plan ← boundary.query.plan typePrefix
  return {
    filters := plan.predicate.toList ++ boundary.expected.laterFilter.toList
    descending := false
    top := none
    projection := .isEmpty }

/-- The guard of an append; where anything is expected there is none. -/
def guard? (typePrefix : String) (boundary : Boundary) : Except Failure (Option Guard) :=
  if boundary.expected.isAny then .ok none
  else do
    let program ← boundary.program typePrefix
    let text ← program.text
    return some (.isTrue text)

end Boundary
end BoundaryLog
