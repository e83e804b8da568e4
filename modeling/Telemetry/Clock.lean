/-!
# The millisecond clock

Time is a `UInt32` count of milliseconds that wraps about every 49.7 days. Only differences of
two readings are ever compared, and a difference is taken modulo `2 ^ 32`.

Time passes while an operation is at work: it takes a new reading each time it looks at the clock, and
between two readings any time may have passed.
-/

namespace Telemetry

/-- The clock of an operation. Behind the readings to come it stands still. -/
structure Clock where
  /-- The reading last taken. -/
  now : UInt32
  /-- The readings to come. -/
  later : List UInt32 := []
  deriving DecidableEq, Repr

namespace Clock

/-- Takes the next reading. -/
def look (c : Clock) : Clock := { now := c.later.headD c.now, later := c.later.tail }

/-- The milliseconds from `since` to `now` on the wrapping clock. -/
def elapsed (now since : UInt32) : UInt32 := now - since

@[simp] theorem elapsed_self (t : UInt32) : elapsed t t = 0 := by simp [elapsed]

/-- Moving both readings by the same amount changes nothing. -/
@[simp] theorem elapsed_add_right (now since c : UInt32) :
    elapsed (now + c) (since + c) = elapsed now since := by
  unfold elapsed
  grind

end Clock
end Telemetry
