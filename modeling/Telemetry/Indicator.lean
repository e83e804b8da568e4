import Telemetry.Status
import Telemetry.Text.Diagnostic

/-!
# The status indicator

An indicator shows a status and tells its watcher about changes. Outside a tick each change is told
at once. Inside a tick the changes are held back, and the end of the tick tells the final status
if it differs from the one the tick began with.
-/

namespace Telemetry

structure Indicator where
  status : Status
  /-- The status at the start of the tick in progress. -/
  tickStart : Option Status := none
  /-- Is anyone told about changes? -/
  watched : Bool := false
  deriving DecidableEq, Repr

namespace Indicator

/-- What the watcher is told when `s` is announced. -/
def announce (i : Indicator) (s : Status) : Option Status := if i.watched then some s else none

/-- Shows `s`; the second component is the notice that is due now. -/
def set (s : Status) (i : Indicator) : Indicator × Option Status :=
  if i.status = s then (i, none)
  else ({ i with status := s }, if i.tickStart.isNone then i.announce s else none)

def beginTick (i : Indicator) : Indicator := { i with tickStart := some i.status }

def endTick (i : Indicator) : Indicator × Option Status :=
  match i.tickStart with
  | none => (i, none)
  | some start =>
    ({ i with tickStart := none }, if start = i.status then none else i.announce i.status)

def diagnostic (i : Indicator) : String :=
  Text.Diagnostic.record "StatusTracker"
    [("current", i.status.title), ("has_observer", toString i.watched)]

@[simp] theorem status_set (s : Status) (i : Indicator) : (i.set s).1.status = s := by
  unfold set
  split
  · assumption
  · rfl

@[simp] theorem watched_set (s : Status) (i : Indicator) : (i.set s).1.watched = i.watched := by
  unfold set
  split <;> rfl

@[simp] theorem tickStart_set (s : Status) (i : Indicator) :
    (i.set s).1.tickStart = i.tickStart := by
  unfold set
  split <;> rfl

@[simp] theorem status_beginTick (i : Indicator) : i.beginTick.status = i.status := rfl

@[simp] theorem status_endTick (i : Indicator) : i.endTick.1.status = i.status := by
  unfold endTick
  split <;> rfl

end Indicator
end Telemetry
