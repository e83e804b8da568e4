import Telemetry.Json.Reader
import Telemetry.Record
import Telemetry.Relay.Frame
import Telemetry.Relay.Pump
import Telemetry.Settings.Basic
import Telemetry.Station
import Telemetry.Text.Utf8

/-!
# The main unit

The main unit has no connection of its own. It hands records to its companion over the wire, one
frame each and without acknowledgement, asks for a report at an interval, and keeps the last one.
-/

namespace Telemetry.Relay

structure MainUnit (ω : Type) extends Journal where
  wire : ω
  assembler : Assembler
  /-- The longest frame that is written. -/
  frameLimit : Nat
  /-- The longest payload that is accepted. -/
  payloadLimit : Nat
  /-- How long after a query the next one is due. -/
  interval : UInt32
  lastQuery : Option UInt32 := none
  report : Option Report := none

namespace MainUnit

variable {ω : Type}

def start (settings : Settings) (wire : ω) (journal : Journal) : MainUnit ω :=
  { journal with
    wire
    assembler := .ofLimit settings.relay.maxFrameBytes
    frameLimit := settings.relay.maxFrameBytes
    payloadLimit := settings.broker.maxPayloadBytes
    interval := settings.relay.statusIntervalMs }

/-- Connectivity as the companion last reported it. -/
def connectivity (u : MainUnit ω) : Connectivity :=
  match u.report with
  | some r => { link := r.link, broker := r.broker, address := r.address }
  | none => {}

/-- Takes a line in: a report replaces the one before, and all else is passed over. -/
def handle (line : String) (u : MainUnit ω) : MainUnit ω :=
  match Frame.parse line with
  | .ok (some (.report r)) => { u with report := some r }
  | _ => u

instance : LineEnd ω (MainUnit ω) where
  wire u := u.wire
  withWire wire u := { u with wire }
  assembler u := u.assembler
  withAssembler assembler u := { u with assembler }
  handle := handle

/-- The value in a payload. Only the nesting can keep it from being read back. -/
def readBack (payload : String) : Except Failure Json :=
  match Json.read? payload with
  | some v => .ok v
  | none =>
    let column := (Json.Reader.refusedAt? {} 0 payload.toList).getD 0
    .error (.frameMalformed
      s!"record payload: recursion limit exceeded at line 1 column {column}")

/-- The line that hands a record to the companion. -/
def publishLine (r : Record) (u : MainUnit ω) : Except Failure String := do
  let payload ← r.encode u.payloadLimit
  let data ← readBack payload
  (Frame.publish data).encode u.frameLimit

variable [Wire ω]

/-- Takes the next reading of the clock. -/
def look (u : MainUnit ω) : MainUnit ω := { u with toClock := u.toClock.look }

/-- Writes a line; a wire that refuses is reported. -/
def write (line : String) (u : MainUnit ω) : Except Transport.Error Unit × MainUnit ω :=
  let r := Wire.writeLine line u.wire
  (r.1,
    { u with
      wire := r.2
      trace := u.trace ++ [.mainLine line (Transport.accepted r.1)] })

/-- Asks for a report. The interval counts from here, whether or not the query can be written. -/
def query (u : MainUnit ω) : MainUnit ω :=
  let u := u.look
  let u := { u with lastQuery := some u.now }
  match Frame.query.encode u.frameLimit with
  | .ok line => (u.write line).2
  | .error _ => u

def init (u : MainUnit ω) : MainUnit ω := u.query

def isQueryDue (u : MainUnit ω) : Bool :=
  match u.lastQuery with
  | none => true
  | some t => u.interval ≤ Clock.elapsed u.now t

def tick (u : MainUnit ω) : MainUnit ω :=
  let u := (LineEnd.pump pumpBudget u).look
  if u.isQueryDue then u.query else u

/-- Hands a record to the companion. -/
def publishRecord (r : Record) (u : MainUnit ω) : Except Failure Unit × MainUnit ω :=
  match u.publishLine r with
  | .error e => (.error e, u)
  | .ok line =>
    let w := u.write line
    (w.1.mapError .transport, w.2)

/-- A record that was written counts as delivered. -/
def publish (r : Record) (u : MainUnit ω) : Delivery × MainUnit ω :=
  match u.publishRecord r with
  | (.ok (), u) => (.success, u)
  | (.error _, u) => (.dropped, u)

end MainUnit
end Telemetry.Relay
