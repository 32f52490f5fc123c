import BoundaryLog.Row

/-! # Feeds

A read answers with a feed of events.  Rows are decoded as they are pulled, so a fault shows at its
place; it does not end the feed. -/
set_option autoImplicit false
namespace BoundaryLog

/-- The rows of a query, each of which may fail on its way. -/
abbrev Rows := List (Except TransportFailure Json)

structure Feed where
  rows : Rows
  typePrefix : String

namespace Feed

def item (typePrefix : String) : Except TransportFailure Json → Except Failure RecordedEvent
  | .error cause => .error (.transport cause)
  | .ok row => (Row.decode typePrefix row).mapError Row.Fault.toFailure

/-- Pull the next event; the end stays the end. -/
def pull (f : Feed) : Option (Except Failure RecordedEvent) × Feed :=
  match f.rows with
  | [] => (none, f)
  | row :: rest => (some (item f.typePrefix row), { f with rows := rest })

def remaining (f : Feed) : Nat := f.rows.length

/-- The least number of items still to come, and the greatest as far as it is known. -/
def sizeHint (f : Feed) : Nat × Option Nat := (f.remaining, some f.remaining)

/-- The first event, if there is one; the rest is dropped. -/
def first (f : Feed) : Except Failure (Option RecordedEvent) :=
  match f.pull.1 with
  | none => .ok none
  | some (.ok e) => .ok (some e)
  | some (.error err) => .error err

def collectRows (typePrefix : String) : Rows → Except Failure (List RecordedEvent)
  | [] => .ok []
  | row :: rest => do
      let e ← item typePrefix row
      let events ← collectRows typePrefix rest
      return e :: events

/-- All events up to the end, or the first error. -/
def collect (f : Feed) : Except Failure (List RecordedEvent) :=
  collectRows f.typePrefix f.rows

/-- A feed named in a message. -/
def summary (f : Feed) : String :=
  "EventStream \x7b type_prefix: " ++ Text.quoted f.typePrefix ++ ", .. \x7d"

end Feed
end BoundaryLog
