import BoundaryLog.Event

/-! # Queries, traversals and boundaries

A query selects events: it holds criteria, of which one must match, and a criterion restricts the
type and requires tags.  The same query picks the events of a read and draws the boundary of an
append. -/
set_option autoImplicit false
namespace BoundaryLog

/-- One alternative of a query.  A side that is missing or empty restricts nothing. -/
structure Criterion where
  types : Option LabelSet
  tags : Option LabelSet
  onlyLast : Bool
  deriving DecidableEq

namespace Criterion

def new : Criterion := ⟨none, none, false⟩

/-- The set of some labels, if there are any. -/
def restriction (labels : List String) : Option LabelSet :=
  let set := LabelSet.ofList labels
  if set.isEmpty then none else some set

/-- The criterion with the given types instead of its own. -/
def restrictTypes (types : List String) (c : Criterion) : Criterion :=
  { c with types := restriction types }

/-- The criterion with the given tags instead of its own. -/
def requireTags (tags : List String) (c : Criterion) : Criterion :=
  { c with tags := restriction tags }

/-- The criterion for the last matching event alone. -/
def lastOnly (c : Criterion) : Criterion := { c with onlyLast := true }

/-- The accepted types; none means that every type is accepted. -/
def typeList (c : Criterion) : List String := (c.types.map LabelSet.toList).getD []

def tagList (c : Criterion) : List String := (c.tags.map LabelSet.toList).getD []

end Criterion

inductive Query where
  | all
  | criteria (alternatives : List Criterion)
  deriving DecidableEq

namespace Query

/-- The criteria of a query; the query for everything has none. -/
def alternatives : Query → List Criterion
  | .all => []
  | .criteria alternatives => alternatives

def hasCriteria (q : Query) : Bool := !q.alternatives.isEmpty

/-- Whether some criterion asks for the last event alone. -/
def onlyLast (q : Query) : Bool := q.alternatives.any Criterion.onlyLast

end Query

/-- How a read goes through the selected events: from which position on, in which direction, and
how many events at most. -/
structure Traversal where
  bound : Option Position
  backwards : Bool
  limit : Option Count
  deriving DecidableEq

/-- The read of every selected event in order. -/
def Traversal.full : Traversal := ⟨none, false, none⟩

/-- What the writer of new events last saw of the selected events: anything, no event, or an event
at the given position as the last. -/
inductive Expectation where
  | any
  | none
  | exactly (position : Position)
  deriving DecidableEq

/-- The boundary of an append: the events that matter to it, which must be as expected. -/
structure Boundary where
  query : Query
  expected : Expectation
  deriving DecidableEq

/-- The boundary that no event crosses. -/
def Boundary.unchecked : Boundary := ⟨.all, .any⟩

end BoundaryLog
