import BoundaryLog.Query.Plan

/-! # Reads as programs

A read scans the selected events from the given position on, and the last event alone is the first
one of a descending scan. -/
set_option autoImplicit false
namespace BoundaryLog.Query

/-- The filter for the position that a read starts at. -/
def startFilter (traversal : Traversal) : Option Predicate :=
  traversal.bound.map fun p =>
    .position (if traversal.backwards then .atMost else .atLeast) p.count

/-- The program of a read. -/
def scan (typePrefix : String) (traversal : Traversal) (q : Query) : Except Failure Program := do
  let plan ← q.plan typePrefix
  return {
    filters := plan.predicate.toList ++ (startFilter traversal).toList
    descending := traversal.backwards || plan.onlyLast
    top := if plan.onlyLast then some .one else traversal.limit
    projection := .envelope }

/-- The text of the program of a read. -/
def scanText (typePrefix : String) (traversal : Traversal) (q : Query) :
    Except Failure String := do
  let program ← q.scan typePrefix traversal
  program.text

end BoundaryLog.Query
