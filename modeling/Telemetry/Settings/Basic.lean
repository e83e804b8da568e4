import Telemetry.Backoff
import Telemetry.Settings.Error
import Telemetry.Topic

/-!
# Settings

What a device is told once, at start: who it is, and the timing and limits of its connections.
Every value has a default. Credentials and the broker's address are not part of the settings; they
are provisioned and kept in the store.
-/

namespace Telemetry.Settings

/-- How a device publishes: with a radio of its own, or through a companion on a serial wire. -/
inductive Mode
  | direct
  | relay
  deriving DecidableEq, Repr

def Mode.word : Mode → String
  | direct => "direct"
  | relay => "relay"

def Mode.ofWord? (w : String) : Option Mode :=
  if w = "direct" then some direct else if w = "relay" then some relay else none

structure Device where
  id : String := "uplink-0001"
  mode : Mode := .direct
  storePath : String := "uplink-store.json"
  tickIntervalMs : UInt64 := 500
  deriving DecidableEq, Repr

structure Link where
  connectionTimeoutMs : UInt32 := 10000
  reconnectIntervalMs : UInt32 := 5000
  maxReconnectIntervalMs : UInt32 := 30000
  maxReconnectAttempts : UInt32 := 3
  deriving DecidableEq, Repr

structure Broker where
  connectionTimeoutMs : UInt32 := 10000
  reconnectIntervalMs : UInt32 := 5000
  maxReconnectIntervalMs : UInt32 := 30000
  keepAliveSecs : UInt16 := 60
  maxPayloadBytes : Nat := 512
  topicRoot : String := "records"
  deriving DecidableEq, Repr

structure Relay where
  port : String := "/dev/ttyUSB0"
  baudRate : UInt32 := 115200
  statusIntervalMs : UInt32 := 10000
  maxFrameBytes : Nat := 768
  deriving DecidableEq, Repr

end Telemetry.Settings

namespace Telemetry

structure Settings where
  device : Settings.Device := {}
  link : Settings.Link := {}
  broker : Settings.Broker := {}
  relay : Settings.Relay := {}
  deriving DecidableEq, Repr

namespace Settings

def Link.policy (s : Settings.Link) : Backoff.Policy :=
  { base := s.reconnectIntervalMs
    ceiling := s.maxReconnectIntervalMs
    budget := some s.maxReconnectAttempts }

/-- The broker is tried for as long as it is enabled. -/
def Broker.policy (s : Settings.Broker) : Backoff.Policy :=
  { base := s.reconnectIntervalMs, ceiling := s.maxReconnectIntervalMs, budget := none }

/-- A value of a setting. -/
inductive Setting
  | text (s : String)
  | number (n : Nat)
  deriving DecidableEq, Repr

/-- All settings by their sections and keys. -/
def sections (s : Settings) : List (String × List (String × Setting)) :=
  [ ("device",
      [ ("id", .text s.device.id),
        ("mode", .text s.device.mode.word),
        ("store_path", .text s.device.storePath),
        ("tick_interval_ms", .number s.device.tickIntervalMs.toNat) ]),
    ("link",
      [ ("connection_timeout_ms", .number s.link.connectionTimeoutMs.toNat),
        ("reconnect_interval_ms", .number s.link.reconnectIntervalMs.toNat),
        ("max_reconnect_interval_ms", .number s.link.maxReconnectIntervalMs.toNat),
        ("max_reconnect_attempts", .number s.link.maxReconnectAttempts.toNat) ]),
    ("broker",
      [ ("connection_timeout_ms", .number s.broker.connectionTimeoutMs.toNat),
        ("reconnect_interval_ms", .number s.broker.reconnectIntervalMs.toNat),
        ("max_reconnect_interval_ms", .number s.broker.maxReconnectIntervalMs.toNat),
        ("keep_alive_secs", .number s.broker.keepAliveSecs.toNat),
        ("max_payload_bytes", .number s.broker.maxPayloadBytes),
        ("topic_prefix", .text s.broker.topicRoot) ]),
    ("relay",
      [ ("port", .text s.relay.port),
        ("baud_rate", .number s.relay.baudRate.toNat),
        ("status_interval_ms", .number s.relay.statusIntervalMs.toNat),
        ("max_frame_bytes", .number s.relay.maxFrameBytes) ]) ]

def topics (s : Settings) : Topics := { root := s.broker.topicRoot, deviceId := s.device.id }

/-- The least frame limit; a status frame always fits. -/
def minFrameBytes : Nat := 64

/-- What is wrong with settings. -/
inductive Violation
  | deviceId (id : String) (cause : Topic.DeviceIdError)
  | zeroTickInterval
  | reconnect (table : String) (cause : Backoff.PolicyError)
  | zeroConnectionTimeout
  | zeroPayloadLimit
  | topicRoot (root : String)
  | frameLimit
  | zeroStatusInterval
  deriving DecidableEq, Repr

def Violation.error : Violation → Error
  | deviceId id cause => .deviceId ("'" ++ id ++ "': " ++ cause.message)
  | zeroTickInterval => .invalid "device.tick_interval_ms must be greater than 0"
  | reconnect table cause => .invalid ("[" ++ table ++ "] " ++ cause.message)
  | zeroConnectionTimeout => .invalid "connection_timeout_ms must be greater than 0"
  | zeroPayloadLimit => .invalid "broker.max_payload_bytes must be greater than 0"
  | topicRoot root =>
    .invalid ("broker.topic_prefix '" ++ root ++ "' must be non-empty and free of wildcards")
  | frameLimit => .invalid s!"relay.max_frame_bytes must be at least {minFrameBytes}"
  | zeroStatusInterval => .invalid "relay.status_interval_ms must be greater than 0"

/-- Would the text disturb a topic that it is part of? -/
def hasWildcard (s : String) : Bool := s.toList.any fun c => c == '+' || c == '#'

def cause? {ε : Type} (check : Except ε Unit) : Option ε :=
  match check with
  | .ok () => none
  | .error e => some e

def when (bad : Bool) (v : Violation) : Option Violation := if bad then some v else none

/-- The checks in the order in which they are made. -/
def checks (s : Settings) : List (Option Violation) :=
  [ (cause? (Topic.checkDeviceId s.device.id)).map (.deviceId s.device.id),
    when (s.device.tickIntervalMs == 0) .zeroTickInterval,
    (cause? s.link.policy.check).map (.reconnect "link"),
    (cause? s.broker.policy.check).map (.reconnect "broker"),
    when (s.link.connectionTimeoutMs == 0 || s.broker.connectionTimeoutMs == 0)
      .zeroConnectionTimeout,
    when (s.broker.maxPayloadBytes == 0) .zeroPayloadLimit,
    when (s.broker.topicRoot.isEmpty || hasWildcard s.broker.topicRoot)
      (.topicRoot s.broker.topicRoot),
    when (s.relay.maxFrameBytes < minFrameBytes) .frameLimit,
    when (s.relay.statusIntervalMs == 0) .zeroStatusInterval ]

/-- The first violation, if any. -/
def violation? (s : Settings) : Option Violation := s.checks.findSome? id

def validate (s : Settings) : Except Error Unit :=
  match s.violation? with
  | some v => .error v.error
  | none => .ok ()

end Settings
end Telemetry
