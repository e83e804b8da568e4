/-!
# Connection status

The five states that both connection managers move through. `disabled` is entered only by turning
a manager off, and left only by turning it on or by failing to.
-/

namespace Telemetry

inductive Status
  | disabled
  | disconnected
  | connecting
  | connected
  | error
  deriving DecidableEq, Repr, Inhabited

namespace Status

/-- The word used in reports and on the console. -/
def word : Status → String
  | disabled => "disabled"
  | disconnected => "disconnected"
  | connecting => "connecting"
  | connected => "connected"
  | error => "error"

/-- The capitalised name used in diagnostic text. -/
def title : Status → String
  | disabled => "Disabled"
  | disconnected => "Disconnected"
  | connecting => "Connecting"
  | connected => "Connected"
  | error => "Error"

def all : List Status := [disabled, disconnected, connecting, connected, error]

def ofWord? (w : String) : Option Status := all.find? fun s => s.word == w

def isConnected (s : Status) : Bool := s == connected

/-- A connection is being set up or stands. -/
def isActive (s : Status) : Bool := s == connecting || s == connected

@[simp] theorem isConnected_iff {s : Status} : s.isConnected = true ↔ s = connected := by
  cases s <;> decide

end Status
end Telemetry
