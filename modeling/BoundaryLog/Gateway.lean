import BoundaryLog.Deployment
import BoundaryLog.Query.Scan

/-! # Gateways

A gateway gives access to the log in one namespace of types.  Whatever is wrong with the arguments
is found before anything else happens.  A read is one query; an append is one write of all its
events, each stamped with a reading of its own, under at most one guard, and is never tried
again. -/
set_option autoImplicit false
namespace BoundaryLog

/-- The source that a gateway names in its records, and its namespace. -/
structure GatewayConfig where
  source : String
  typePrefix : String
  deriving DecidableEq

namespace GatewayConfig

def default : GatewayConfig := ⟨"https://dcb.events", "events.dcb."⟩

/-- A configuration named in a message. -/
def summary (c : GatewayConfig) : String :=
  "StoreConfig \x7b event_source: " ++ Text.quoted c.source ++ ", event_type_prefix: " ++
    Text.quoted c.typePrefix ++ " \x7d"

end GatewayConfig

/-- Access to the log: a configuration and the number of a timepiece. -/
structure Gateway where
  config : GatewayConfig
  timepiece : Nat
  deriving DecidableEq

/-- A conflict as the caller learns of it, with what is noticed and counted. -/
def Conflict.report (conflict : Conflict) : Failure × List Entry :=
  (.conflict conflict, [.noticed (.rejected conflict), .counted (.conflicts conflict.label)])

/-- What a guard that did not hold means to the caller, with what is noticed and counted.  A write
without a guard cannot be refused, so a refusal of one is a fault of the database. -/
def Expectation.violation : Expectation → Failure × List Entry
  | .any => (.unexpectedConflict, [.noticed .unexplained, .counted (.conflicts .unexpected)])
  | .none => Conflict.report .matchingEventsExist
  | .exactly p => Conflict.report (.matchingEventsExistAfter p)

namespace Gateway

/-- A gateway named in a message. -/
def summary (g : Gateway) : String :=
  "EsdbEventStore \x7b config: " ++ g.config.summary ++ ", .. \x7d"

/-! ## Arguments -/

/-- The events of an append must be there and have types. -/
def checkEvents (events : List Event) : Except Failure Unit :=
  if events.isEmpty then .error (.invalidArgument "events must not be empty")
  else
    match events.findIdx? (·.type.isEmpty) with
    | some index =>
        .error (.invalidArgument ("event at index " ++ toString index ++ " has an empty type"))
    | none => .ok ()

/-- Check the arguments of an append and find its guard. -/
def prepare (g : Gateway) (events : List Event) (boundary : Boundary) :
    Except Failure (Option Guard) := do
  checkEvents events
  boundary.guard? g.config.typePrefix

variable {σ : Type}

/-- The records of events, each stamped with a reading of its own. -/
def stampAll (g : Gateway) : List Event → Deployment σ → List Record × Deployment σ
  | [], d => ([], d)
  | e :: events, d =>
      let (t, d) := d.readTime g.timepiece
      let (records, d) := g.stampAll events d
      (e.record g.config.source g.config.typePrefix t :: records, d)

/-! ## Operations -/

variable [Backend σ]

def ping (_g : Gateway) (d : Deployment σ) : Except Failure Unit × Deployment σ :=
  let (answer, d) := d.ping
  (answer.mapError .transport, d)

def read (g : Gateway) (query : Query) (traversal : Traversal) (d : Deployment σ) :
    Except Failure Feed × Deployment σ :=
  match query.scanText g.config.typePrefix traversal with
  | .error e => (.error e, d)
  | .ok program =>
      let (answer, d) := (d.enter [.noticed (.running program), .counted .reads]).query program
      ((answer.map fun rows => ⟨rows, g.config.typePrefix⟩).mapError .transport, d)

/-- Append events if the boundary is as expected. -/
def append (g : Gateway) (events : List Event) (boundary : Boundary) (d : Deployment σ) :
    Except Failure Unit × Deployment σ :=
  match g.prepare events boundary with
  | .error e => (.error e, d)
  | .ok guard =>
      let (records, d) := g.stampAll events d
      let notice := Notice.writing records.length (guard.map Guard.program)
      match (d.enter [.noticed notice, .counted .appends]).write records guard.toList with
      | (.error cause, d) => (.error (.transport cause), d)
      | (.ok .written, d) => (.ok (), d)
      | (.ok .refused, d) =>
          let (e, entries) := boundary.expected.violation
          (.error e, d.enter entries)

end Gateway
end BoundaryLog
