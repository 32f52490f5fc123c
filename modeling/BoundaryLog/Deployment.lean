import BoundaryLog.Backend.Basic
import BoundaryLog.Timepiece
import BoundaryLog.Journal

/-! # What gateways share

Gateways work on one database, read timepieces that they may share, and keep one journal. -/
set_option autoImplicit false
namespace BoundaryLog

/-- A database, the timepieces by number, and the journal so far. -/
structure Deployment (σ : Type) where
  backend : σ
  timepieces : Nat → Timepiece
  journal : List Entry

namespace Deployment

variable {σ : Type}

/-- Add entries to the journal. -/
def enter (entries : List Entry) (d : Deployment σ) : Deployment σ :=
  { d with journal := d.journal ++ entries }

def setTimepiece (n : Nat) (timepiece : Timepiece) (d : Deployment σ) : Deployment σ :=
  { d with timepieces := fun m => if m = n then timepiece else d.timepieces m }

def readTime (n : Nat) (d : Deployment σ) : Instant × Deployment σ :=
  let (t, timepiece) := (d.timepieces n).read
  (t, (d.setTimepiece n timepiece).enter [.timeRead n t])

variable [Backend σ]

def ping (d : Deployment σ) : Except TransportFailure Unit × Deployment σ :=
  let (answer, backend) := Backend.ping d.backend
  (answer, { d.enter [.requested .ping] with backend })

def query (program : String) (d : Deployment σ) : Except TransportFailure Rows × Deployment σ :=
  let (answer, backend) := Backend.query program d.backend
  (answer, { d.enter [.requested (.query program)] with backend })

def write (records : List Record) (guards : List Guard) (d : Deployment σ) :
    Except TransportFailure WriteAnswer × Deployment σ :=
  let (answer, backend) := Backend.write records guards d.backend
  (answer, { d.enter [.requested (.write records guards)] with backend })

end Deployment
end BoundaryLog
