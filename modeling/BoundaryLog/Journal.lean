import BoundaryLog.Record

/-! # The journal

Everything that operations do beside their answer is an entry of a journal: requests to the
database, readings of a timepiece, notices for an operator, and increments of counters. -/
set_option autoImplicit false
namespace BoundaryLog

inductive Request where
  | ping
  | query (program : String)
  | write (records : List Record) (guards : List Guard)
  deriving DecidableEq

inductive Level where
  | debug
  | warn
  | error
  deriving DecidableEq

inductive Notice where
  | writing (events : Nat) (program : Option String)
  | running (program : String)
  | rejected (conflict : Conflict)
  | unexplained
  deriving DecidableEq

namespace Notice

def level : Notice → Level
  | .writing _ _ | .running _ => .debug
  | .rejected _ => .warn
  | .unexplained => .error

def message : Notice → String
  | .writing _ _ => "Writing events"
  | .running _ => "Running EventQL query"
  | .rejected _ => "Conditional append rejected"
  | .unexplained => "Store rejected a write that carried no precondition"

end Notice

/-- Why an append was counted as a conflict. -/
inductive ConflictLabel where
  | matchingEventsExist
  | matchingEventsExistAfter
  | unexpected
  deriving DecidableEq

def Conflict.label : Conflict → ConflictLabel
  | .matchingEventsExist => .matchingEventsExist
  | .matchingEventsExistAfter _ => .matchingEventsExistAfter

inductive Counter where
  | appends
  | reads
  | conflicts (label : ConflictLabel)
  deriving DecidableEq

namespace Counter

def labelText : ConflictLabel → String
  | .matchingEventsExist => "matching_events_exist"
  | .matchingEventsExistAfter => "matching_events_exist_after"
  | .unexpected => "unexpected"

/-- The name under which a counter is published. -/
def name : Counter → String
  | .appends => "dcb_esdb_appends_total"
  | .reads => "dcb_esdb_reads_total"
  | .conflicts label =>
      "dcb_esdb_append_conflicts_total\x7breason=" ++ labelText label ++ "\x7d"

end Counter

inductive Entry where
  | requested (request : Request)
  | timeRead (timepiece : Nat) (t : Instant)
  | noticed (notice : Notice)
  | counted (counter : Counter)
  deriving DecidableEq

end BoundaryLog
