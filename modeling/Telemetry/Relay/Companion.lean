import Telemetry.Relay.Console
import Telemetry.Relay.Frame
import Telemetry.Relay.Pump
import Telemetry.Station

/-!
# The companion

The companion owns the radio and the broker session. It publishes the records that the main unit
sends, answers queries, and reports on its own whenever the link or the broker goes up or down.
-/

namespace Telemetry.Relay

structure Companion (ω ρ β σ : Type) extends Station ρ β σ where
  wire : ω
  assembler : Assembler
  /-- The longest frame that is written. -/
  frameLimit : Nat
  /-- Link and broker as they were last reported. -/
  reported : Bool × Bool := (false, false)

namespace Companion

variable {ω ρ β σ : Type}

def start (settings : Settings) (wire : ω) (station : Station ρ β σ) : Companion ω ρ β σ :=
  { station with
    wire
    assembler := .ofLimit settings.relay.maxFrameBytes
    frameLimit := settings.relay.maxFrameBytes }

def onStation (f : Station ρ β σ → Station ρ β σ) (c : Companion ω ρ β σ) : Companion ω ρ β σ :=
  { c with toStation := f c.toStation }

/-- An operation on the station with an answer. -/
def askStation {α : Type} (f : Station ρ β σ → α × Station ρ β σ) (c : Companion ω ρ β σ) :
    α × Companion ω ρ β σ :=
  let r := f c.toStation
  (r.1, { c with toStation := r.2 })

/-- The pair that reports carry. -/
def pair (c : Companion ω ρ β σ) : Bool × Bool := (c.link.isConnected, c.broker.isConnected)

/-- The item id in a record, or 0. -/
def itemId (data : Json) : UInt32 := ((data.field? Record.idKey).bind Json.uint32?).getD 0

/-- Publishes a record as it stands. -/
def publishData [Client β] (data : Json) (c : Companion ω ρ β σ) :
    Delivery × Companion ω ρ β σ :=
  let id := itemId data
  c.askStation fun s =>
    s.askBroker (Broker.publish id (s.broker.topics.item id) (Text.utf8 data.render))

section Wire

variable [Wire ω] [Radio ρ]

def write (line : String) (c : Companion ω ρ β σ) : Companion ω ρ β σ :=
  let r := Wire.writeLine line c.wire
  { c with
    wire := r.2
    trace := c.trace ++ [.companionLine line (Transport.accepted r.1)] }

/-- The word in the reports of a companion that is alive. -/
def aliveStatus : String := "ok"

def currentReport (c : Companion ω ρ β σ) : Report :=
  let k := c.connectivity
  { status := aliveStatus, link := k.link, broker := k.broker, address := k.address }

/-- Writes a report. The pair counts as reported even if the wire refuses. -/
def report (c : Companion ω ρ β σ) : Companion ω ρ β σ :=
  let r := c.currentReport
  let c := { c with reported := (r.link, r.broker) }
  match (Frame.report r).encode c.frameLimit with
  | .ok line => c.write line
  | .error _ => c

variable [Client β]

/-- Handles a line from the main unit. -/
def handle (line : String) (c : Companion ω ρ β σ) : Companion ω ρ β σ :=
  match Frame.parse line with
  | .ok (some (.publish data)) => (c.publishData data).2
  | .ok (some .query) => c.report
  | _ => c

instance : LineEnd ω (Companion ω ρ β σ) where
  wire c := c.wire
  withWire wire c := { c with wire }
  assembler c := c.assembler
  withAssembler assembler c := { c with assembler }
  handle := handle

/-- Serves the lines that have arrived, ticks the managers, and reports a change. -/
def tick (c : Companion ω ρ β σ) : Companion ω ρ β σ :=
  let c := (LineEnd.pump pumpBudget c).onStation Station.tick
  if c.pair = c.reported then c else c.report

end Wire

/-! ## The console -/

section Console

variable [Radio ρ]

def unset : String := "(not configured)"

def statusLines (c : Companion ω ρ β σ) : List String :=
  let linkDetail :=
    match c.link.address? with
    | some address => c.link.status.word ++ " (" ++ address ++ ")"
    | none => c.link.status.word
  let target :=
    match c.broker.endpoint with
    | some e => e.host ++ ":" ++ toString e.port
    | none => unset
  [ "=== Gateway Status ===",
    "Device ID: " ++ c.broker.topics.deviceId,
    "WiFi SSID: " ++ c.link.identity?.getD unset,
    "WiFi Status: " ++ linkDetail,
    "MQTT Broker: " ++ target,
    "MQTT Status: " ++ c.broker.status.word,
    s!"Pending publishes: {c.broker.pending}" ]

def errorLine (message : String) : String := "Error: " ++ message

/-- The line that tells a failure, if there is one. -/
def errorLines {ε α : Type} (message : ε → String) (outcome : Except ε α) : List String :=
  match outcome with
  | .ok _ => []
  | .error e => [errorLine (message e)]

variable [Client β] [Storage σ]

/-- Forgets everything; what goes wrong is told and passed over. -/
def reset (c : Companion ω ρ β σ) : List String × Companion ω ρ β σ :=
  let broker := c.askStation (·.askBroker Broker.clearEndpoint)
  let link := broker.2.askStation (·.askLink Link.clearCredentials)
  let erased := Storage.clear link.2.store
  (errorLines Failure.message broker.1 ++ errorLines Failure.message link.1 ++
      errorLines Store.Error.message erased.1 ++ ["All settings cleared"],
    { link.2 with store := erased.2 })

/-- Sets the network up and connects anew. -/
def setNetwork (ssid pass : String) (c : Companion ω ρ β σ) : List String × Companion ω ρ β σ :=
  match c.askStation (·.askLink (Link.setCredentials ssid pass)) with
  | (.error e, c) => ([errorLine e.message], c)
  | (.ok (), c) =>
    (["WiFi configuration saved, connecting to " ++ ssid],
      c.onStation fun s => s.onLink fun l => l.disable.enable)

/-- Sets the broker up and connects anew. -/
def setBroker (host : String) (port : UInt16) (user pass : Option String)
    (c : Companion ω ρ β σ) : List String × Companion ω ρ β σ :=
  let linkUp := c.link.isConnected
  match c.askStation (·.askBroker (Broker.setEndpoint host port user pass)) with
  | (.error e, c) => ([errorLine e.message], c)
  | (.ok (), c) =>
    (["MQTT configuration saved: " ++ host ++ ":" ++ toString port],
      c.onStation fun s => s.onBroker fun b => b.disable.enable linkUp)

/-- Carries out a console line; the first component is what is printed. -/
def console (line : String) (c : Companion ω ρ β σ) : List String × Companion ω ρ β σ :=
  match Console.parse line with
  | .error e => ([errorLine e.message], c)
  | .ok none => ([], c)
  | .ok (some .help) => (Console.helpLines, c)
  | .ok (some .status) => (c.statusLines, c)
  | .ok (some .reset) => c.reset
  | .ok (some (.wifi ssid pass)) => c.setNetwork ssid pass
  | .ok (some (.mqtt host port user pass)) => c.setBroker host port user pass

end Console

end Companion
end Telemetry.Relay
