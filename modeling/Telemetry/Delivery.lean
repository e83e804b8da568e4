/-!
# Deliveries

What became of a message: it was handed to the broker, it waits in the outbox, or it is lost.
-/

namespace Telemetry

inductive Delivery
  | success
  | queued
  | dropped
  deriving DecidableEq, Repr

def Delivery.word : Delivery → String
  | success => "success"
  | queued => "queued"
  | dropped => "dropped"

end Telemetry
