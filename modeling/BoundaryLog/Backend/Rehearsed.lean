import BoundaryLog.Backend.Basic

/-! # Rehearsed answers

A database in front of another one: it may hold one answer, which the next operation of the right
kind gets instead of reaching the database behind.  Operations of other kinds pass the answer by. -/
set_option autoImplicit false
namespace BoundaryLog

inductive Operation where
  | ping
  | query
  | write
  deriving DecidableEq

/-- An answer that is held for the next operation of its kind. -/
inductive HeldAnswer where
  | failure (operation : Operation) (cause : TransportFailure)
  | rows (rows : Rows)
  | answer (answer : WriteAnswer)

structure Rehearsed (σ : Type) where
  inner : σ
  held : Option HeldAnswer

namespace Rehearsed

variable {σ : Type}

/-- Hold an answer, instead of one that is held already. -/
def hold (answer : HeldAnswer) (db : Rehearsed σ) : Rehearsed σ :=
  { db with held := some answer }

def modifyInner (f : σ → σ) (db : Rehearsed σ) : Rehearsed σ := { db with inner := f db.inner }

/-- Give a held answer away, or let the database behind answer. -/
def respond {α : Type} (heldFor : HeldAnswer → Option (Except TransportFailure α))
    (run : σ → Except TransportFailure α × σ) (db : Rehearsed σ) :
    Except TransportFailure α × Rehearsed σ :=
  match db.held.bind heldFor with
  | some answer => (answer, { db with held := none })
  | none =>
      let (answer, inner) := run db.inner
      (answer, { db with inner })

def heldForPing : HeldAnswer → Option (Except TransportFailure Unit)
  | .failure .ping cause => some (.error cause)
  | _ => none

def heldForQuery : HeldAnswer → Option (Except TransportFailure Rows)
  | .failure .query cause => some (.error cause)
  | .rows rows => some (.ok rows)
  | _ => none

def heldForWrite : HeldAnswer → Option (Except TransportFailure WriteAnswer)
  | .failure .write cause => some (.error cause)
  | .answer answer => some (.ok answer)
  | _ => none

end Rehearsed

instance (σ : Type) [Backend σ] : Backend (Rehearsed σ) where
  ping := Rehearsed.respond Rehearsed.heldForPing Backend.ping
  query program := Rehearsed.respond Rehearsed.heldForQuery (Backend.query program)
  write records guards := Rehearsed.respond Rehearsed.heldForWrite (Backend.write records guards)

end BoundaryLog
