import Telemetry.Event
import Telemetry.Store.Basic

/-!
# The board

What the managers of a device share: the clock, the trace and the store.
-/

namespace Telemetry

structure Board (σ : Type) extends Journal where
  store : σ

end Telemetry
