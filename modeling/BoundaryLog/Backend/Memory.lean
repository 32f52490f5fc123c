import BoundaryLog.Backend.Basic
import BoundaryLog.Statement

/-! # The database in memory

A log of records with an interpreter for programs.  All guards of a write are examined against the
log as it is before the write, in order, and the first one that does not hold decides; the records
are appended only if all hold.  Every program that is evaluated is noted. -/
set_option autoImplicit false
namespace BoundaryLog

/-- A log in memory.  Rows that are held answer the next query instead of its program. -/
structure MemoryLog where
  records : List Record
  programs : List String
  heldRows : Option (List Json)

namespace MemoryLog

def empty : MemoryLog := ⟨[], [], none⟩

/-- The refusal of a request that makes no sense. -/
def refusal (reason : String) : TransportFailure := .rejected 400 reason

/-- The rows that a program returns on a list of records. -/
def answer (program : String) (records : List Record) : Except TransportFailure (List Json) :=
  match Statement.ofText program with
  | .error fault => .error (refusal fault.message)
  | .ok statement => .ok (statement.run records)

def run (program : String) (log : MemoryLog) : Except TransportFailure (List Json) × MemoryLog :=
  (answer program log.records, { log with programs := log.programs ++ [program] })

/-- Answer the next query with the given rows. -/
def hold (rows : List Json) (log : MemoryLog) : MemoryLog := { log with heldRows := some rows }

/-- Run a program, or answer with the rows that are held. -/
def query (program : String) (log : MemoryLog) :
    Except TransportFailure (List Json) × MemoryLog :=
  match log.heldRows with
  | some rows => (.ok rows, { log with heldRows := none })
  | none => log.run program

def examine : List Guard → MemoryLog → Except TransportFailure Bool × MemoryLog
  | [], log => (.ok true, log)
  | g :: guards, log =>
      if g.kind = Guard.queryKind then
        match log.run g.program with
        | (.error cause, log) => (.error cause, log)
        | (.ok rows, log) =>
            if rows = [.bool true] then examine guards log else (.ok false, log)
      else (.error (refusal ("unknown precondition " ++ g.kind)), log)

def write (records : List Record) (guards : List Guard) (log : MemoryLog) :
    Except TransportFailure WriteAnswer × MemoryLog :=
  match examine guards log with
  | (.error cause, log) => (.error cause, log)
  | (.ok false, log) => (.ok .refused, log)
  | (.ok true, log) => (.ok .written, { log with records := log.records ++ records })

end MemoryLog

instance : Backend MemoryLog where
  ping log := (.ok (), log)
  query program log :=
    let (answer, log) := log.query program
    (answer.map (List.map .ok), log)
  write records guards log := log.write records guards

end BoundaryLog
