import BoundaryLog.Predicate

/-! # Programs of the query language

A program scans the log: it keeps the events that pass all filters, may turn their order round and
may cut them off after a number, and says what becomes of what is left. -/
set_option autoImplicit false
namespace BoundaryLog

/-- What a program returns: a row for each event that is left, or whether none is. -/
inductive Projection where
  | envelope
  | isEmpty
  deriving DecidableEq

def Projection.text : Projection → String
  | .envelope =>
      "\x7b type: e.type, tags: e.data.tags, data: e.data.payload, metadata: e.data.metadata, recorded_at: e.data.recorded_at, position: (e.id AS INT + 1) \x7d"
  | .isEmpty => "COUNT() == 0"

/-- A scan of the log. -/
structure Program where
  filters : List Predicate
  descending : Bool
  top : Option Count
  projection : Projection

namespace Program

/-- The scan of every event in order. -/
def new (projection : Projection) : Program := ⟨[], false, none, projection⟩

def filter (p : Predicate) (program : Program) : Program :=
  { program with filters := program.filters ++ [p] }

def inDescendingOrder (program : Program) : Program := { program with descending := true }

def atMost (n : Count) (program : Program) : Program := { program with top := some n }

/-- Whether an event passes all filters. -/
def selects (type : String) (tags : List String) (place : Nat) (program : Program) : Bool :=
  program.filters.all (Predicate.holds type tags place)

def filtersText : List String → String
  | [] => ""
  | texts => " WHERE " ++ Text.joinWith " AND " (texts.map Predicate.parenthesized)

def orderText (descending : Bool) : String :=
  if descending then " ORDER BY e.id AS INT DESC" else ""

def topText : Option Count → String
  | none => ""
  | some n => " TOP " ++ n.text

def render (program : Program) : Except BadLiteral String := do
  let texts ← Predicate.renderAll program.filters
  return "FROM e IN events" ++ filtersText texts ++ orderText program.descending ++
    topText program.top ++ " PROJECT INTO " ++ program.projection.text

end Program
end BoundaryLog
