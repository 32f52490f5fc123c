import BoundaryLog.Record
import BoundaryLog.Feed

/-! # Databases

What a database offers: a check that it is there, running a program, and writing records under
guards.  Each operation answers from the present state and leaves the next. -/
set_option autoImplicit false
namespace BoundaryLog

/-- The answer to a write: the records were written, or a guard did not hold. -/
inductive WriteAnswer where
  | written
  | refused
  deriving DecidableEq

/-- A database with states `σ`. -/
class Backend (σ : Type) where
  ping : σ → Except TransportFailure Unit × σ
  query : String → σ → Except TransportFailure Rows × σ
  write : List Record → List Guard → σ → Except TransportFailure WriteAnswer × σ

end BoundaryLog
