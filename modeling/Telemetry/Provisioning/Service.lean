import Telemetry.Json.Printer
import Telemetry.Provisioning.Write
import Telemetry.Station

/-!
# The provisioning service

Applies what a provisioning peer writes to the managers of a station, and reports their state. A write
that is refused changes nothing.
-/

namespace Telemetry.Provisioning

/-! ## The report -/

/-- The fields whose value is there. -/
def present (fields : List (String × Option Json)) : List (String × Json) :=
  fields.filterMap fun f => f.2.map fun v => (f.1, v)

def jsonInt (n : Int) : Json := .number (.int n)

variable {ρ β σ : Type}

/-- Absent values are left out; the signal is there only while connected. -/
def linkReport [Radio ρ] (l : Link ρ σ) : Json :=
  .object <| present
    [ ("enabled", some (.bool l.enabled)),
      ("connected", some (.bool l.isConnected)),
      ("has_credentials", some (.bool l.hasCredentials)),
      ("identity", l.identity?.map .string),
      ("address", l.address?.map .string),
      ("signal_strength", if l.isConnected then some (jsonInt l.signal) else none),
      ("status", some (.string l.status.word)) ]

def brokerReport (b : Broker β σ) : Json :=
  .object <| present
    [ ("enabled", some (.bool b.enabled)),
      ("connected", some (.bool b.isConnected)),
      ("has_config", some (.bool b.isConfigured)),
      ("host", b.endpoint.map fun e => .string e.host),
      ("port", b.endpoint.map fun e => Json.ofNat e.port.toNat),
      ("pending_publishes", some (Json.ofNat b.pending)),
      ("status", some (.string b.status.word)) ]

def report [Radio ρ] (s : Station ρ β σ) : String :=
  (Json.object [("link", linkReport s.link), ("broker", brokerReport s.broker)]).render

/-- The start of the report, at most `limit` bytes of it. -/
def readReport [Radio ρ] (limit : Nat) (s : Station ρ β σ) : List UInt8 :=
  (Text.utf8 (report s)).take limit

/-! ## Writes -/

/-- What a control command answers. -/
inductive Outcome
  | applied
  | tested (accepted : Bool)
  | reported (report : String)
  deriving DecidableEq, Repr

/-- The text of a write, read by `parse`. -/
def read {α : Type} (parse : String → Except Error α) (raw : List UInt8) : Except Failure α :=
  (decode raw >>= parse).mapError Error.failure

section Writes

variable [Radio ρ] [Client β] [Storage σ]

def writeCredentials (raw : List UInt8) (s : Station ρ β σ) :
    Except Failure Unit × Station ρ β σ :=
  match read parseCredentials raw with
  | .error e => (.error e, s)
  | .ok w => s.askLink (Link.setCredentials w.identity w.secret)

def writeEndpoint (raw : List UInt8) (s : Station ρ β σ) : Except Failure Unit × Station ρ β σ :=
  match read parseEndpoint raw with
  | .error e => (.error e, s)
  | .ok w => s.askBroker (Broker.setEndpoint w.host w.port w.username w.password)

def apply (c : Control) (s : Station ρ β σ) : Outcome × Station ρ β σ :=
  match c with
  | .enableLink => (.applied, s.onLink Link.enable)
  | .disableLink => (.applied, s.onLink Link.disable)
  | .enableBroker => (.applied, s.onBroker (Broker.enable s.link.isConnected))
  | .disableBroker => (.applied, s.onBroker Broker.disable)
  | .testConnection =>
    let r := s.askBroker Broker.testConnection
    (.tested r.1, r.2)
  | .getStatus => (.reported (report s), s)

def control (raw : List UInt8) (s : Station ρ β σ) : Except Failure Outcome × Station ρ β σ :=
  match parseControl raw with
  | .error e => (.error e.failure, s)
  | .ok c =>
    let r := apply c s
    (.ok r.1, r.2)

end Writes

end Telemetry.Provisioning
