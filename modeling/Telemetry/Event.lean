import Telemetry.Clock
import Telemetry.Delivery
import Telemetry.Status
import Telemetry.Transport

/-!
# Events

Everything that the device does to the world is an event: the calls on its hardware with their
outcome, and the notices to those who watch it. The events of a run are its trace.
-/

namespace Telemetry

open Transport

inductive Event
  | associate (identity secret : String) (accepted : Bool)
  | dissociate (powerDown : Bool)
  | openSession (options : ConnectOptions) (accepted : Bool)
  | closeSession
  | send (message : Message) (accepted : Bool)
  /-- The main unit wrote a line to its companion. -/
  | mainLine (line : String) (accepted : Bool)
  /-- The companion wrote a line to the main unit. -/
  | companionLine (line : String) (accepted : Bool)
  | linkNotice (status : Status)
  | brokerNotice (status : Status)
  /-- The sender of a message is told what became of it. -/
  | report (id : UInt32) (delivery : Delivery)
  deriving DecidableEq, Repr

/-- The clock of the operation in progress, and what has been done so far. -/
structure Journal extends Clock where
  trace : List Event := []
  deriving DecidableEq, Repr

namespace Journal

/-- Adds an event at the end of the trace. -/
def record (e : Event) (j : Journal) : Journal := { j with trace := j.trace ++ [e] }

@[simp] theorem trace_record (e : Event) (j : Journal) :
    (j.record e).trace = j.trace ++ [e] := rfl

end Journal
end Telemetry
