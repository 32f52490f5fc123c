import BoundaryLog.Timepiece
import Std.Time.DateTime.Timestamp

/-! # The time of the system

The one place where the library looks at the outside world. -/
set_option autoImplicit false
namespace BoundaryLog

/-- The present instant, unless the system is set beyond all years. -/
def Instant.now? : IO (Option Instant) := do
  let nanoseconds := (← Std.Time.Timestamp.now).toNanosecondsSinceUnixEpoch.val
  let perSecond : Int := nanosPerSecond
  return Instant.ofUnix? (nanoseconds / perSecond) (nanoseconds % perSecond).toNat

end BoundaryLog
