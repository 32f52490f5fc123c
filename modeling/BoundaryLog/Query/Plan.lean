import BoundaryLog.Query.Basic
import BoundaryLog.Program

/-! # Queries as predicates

A criterion becomes the conjunction of its type restriction and its tags, and a query the
disjunction of its criteria.  The last event alone can be asked for only by a query with a single
criterion. -/
set_option autoImplicit false
namespace BoundaryLog

/-- A query in terms of stored events.  Without a predicate every event is selected. -/
structure QueryPlan where
  predicate : Option Predicate
  onlyLast : Bool

/-- The predicate of a criterion, in a namespace of types. -/
def Criterion.predicate (typePrefix : String) (c : Criterion) : Predicate :=
  let types := if c.typeList.isEmpty then [] else [.typeIn (c.typeList.map (typePrefix ++ ·))]
  .conjunction (types ++ c.tagList.map .hasTag)

def onlyLastUnsupported : String :=
  "the \"only last event\" flag is supported only for queries that contain a single criterion"

namespace Query

/-- Whether the query can be put into the query language. -/
def supported (q : Query) : Bool := !(q.onlyLast && decide (1 < q.alternatives.length))

/-- A query in terms of stored events, in a namespace of types. -/
def plan (typePrefix : String) (q : Query) : Except Failure QueryPlan :=
  if q.alternatives.isEmpty then .ok ⟨none, false⟩
  else if q.supported then
    .ok ⟨some (.disjunction (q.alternatives.map (Criterion.predicate typePrefix))), q.onlyLast⟩
  else .error (.unsupportedQuery onlyLastUnsupported)

end Query

/-- The text of a program, a bad literal being a failure of its own kind. -/
def Program.text (program : Program) : Except Failure String :=
  program.render.mapError BadLiteral.toFailure

end BoundaryLog
