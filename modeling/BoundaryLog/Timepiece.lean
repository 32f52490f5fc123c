import BoundaryLog.Time.Instant

/-! # Timepieces

A timepiece is the sequence of instants that its readings give.  The last one is given again and
again, so a timepiece that stands still is a sequence of one. -/
set_option autoImplicit false
namespace BoundaryLog

/-- What the readings will show. -/
structure Timepiece where
  next : Instant
  later : List Instant

namespace Timepiece

/-- The timepiece that always shows the same instant. -/
def fixed (t : Instant) : Timepiece := ⟨t, []⟩

/-- The timepiece that shows the given instants, if there is one. -/
def ofList? : List Instant → Option Timepiece
  | [] => none
  | t :: later => some ⟨t, later⟩

def read (c : Timepiece) : Instant × Timepiece :=
  match c.later with
  | [] => (c.next, c)
  | t :: later => (c.next, ⟨t, later⟩)

end Timepiece
end BoundaryLog
