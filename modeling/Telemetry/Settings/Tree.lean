import Telemetry.Json.Basic
import Telemetry.Settings.Basic
import Telemetry.Toml.Basic

/-!
# Settings as a tree

Settings are written as a tree of tables, in TOML or in JSON. Unknown keys are passed over and missing
ones stand for their defaults. A table may also be given as an array of its values in their order.
-/

namespace Telemetry.Settings

/-- What settings can be read from, whatever the format. -/
inductive Tree
  | text (s : String)
  | int (n : Int)
  | list (items : List Tree)
  | table (fields : List (String × Tree))
  /-- A date or a time. Where a table is expected it counts as one without any known key. -/
  | moment
  | null
  /-- A value that no setting has. -/
  | other
  deriving Inhabited

namespace Tree

/-! ## From the formats -/

mutual

def ofToml : Toml → Tree
  | .string s => text s
  | .integer n => int n
  | .array items => list (ofTomlItems items)
  | .inline fields | .table _ fields => table (ofTomlFields fields)
  | .tables members => list (ofTomlMembers members).reverse
  | .moment => moment
  | .float _ | .boolean _ => other

def ofTomlItems : List Toml → List Tree
  | [] => []
  | v :: rest => ofToml v :: ofTomlItems rest

def ofTomlFields : List (String × Toml) → List (String × Tree)
  | [] => []
  | (k, v) :: rest => (k, ofToml v) :: ofTomlFields rest

def ofTomlMembers : List (List (String × Toml)) → List Tree
  | [] => []
  | fields :: rest => table (ofTomlFields fields) :: ofTomlMembers rest

end

mutual

def ofJson : Json → Tree
  | .string s => text s
  | .number (.int n) => int n
  | .array items => list (ofJsonItems items)
  | .object fields => table (ofJsonFields fields)
  | .null => null
  | .number (.float _) | .bool _ => other

def ofJsonItems : List Json → List Tree
  | [] => []
  | v :: rest => ofJson v :: ofJsonItems rest

def ofJsonFields : List (String × Json) → List (String × Tree)
  | [] => []
  | (k, v) :: rest => (k, ofJson v) :: ofJsonFields rest

end

def find? (key : String) : List (String × Tree) → Option Tree
  | [] => none
  | (k, v) :: rest => if k = key then some v else find? key rest

def isEmpty : Tree → Bool
  | list [] | table [] => true
  | _ => false

def isNull : Tree → Bool
  | null => true
  | _ => false

end Tree

/-- Where the two formats differ. -/
structure Dialect where
  /-- May an array that stands for a table have more elements than the table has keys? -/
  extraItems : Bool
  /-- Does a value say nothing beyond the key that it belongs to? -/
  isUnit : Tree → Bool

def Dialect.toml : Dialect := { extraItems := true, isUnit := Tree.isEmpty }

def Dialect.json : Dialect := { extraItems := false, isUnit := Tree.isNull }

namespace Tree

/-! ## Reading settings -/

def text? : Tree → Option String
  | text s => some s
  | _ => none

/-- An integer that is not negative and below `bound`. -/
def nat? (bound : Nat) : Tree → Option Nat
  | int n => if 0 ≤ n ∧ n < bound then some n.toNat else none
  | _ => none

def uint16? (t : Tree) : Option UInt16 := (t.nat? UInt16.size).map UInt16.ofNat

def uint32? (t : Tree) : Option UInt32 := (t.nat? UInt32.size).map UInt32.ofNat

def uint64? (t : Tree) : Option UInt64 := (t.nat? UInt64.size).map UInt64.ofNat

/-- A number of bytes. -/
def size? (t : Tree) : Option Nat := t.nat? UInt64.size

variable (d : Dialect)

/-- A mode is a word, or a table whose one key is the word and whose value says nothing. -/
def mode? : Tree → Option Mode
  | text w => Mode.ofWord? w
  | table [(w, v)] => if d.isUnit v then Mode.ofWord? w else none
  | _ => none

/-- The values of the given keys, in their order. -/
def values? (keys : List String) : Tree → Option (List (Option Tree))
  | table fields => some (keys.map fun k => find? k fields)
  | list items =>
    if !d.extraItems && keys.length < items.length then none
    else some ((List.range keys.length).map fun i => items[i]?)
  | moment => some (keys.map fun _ => none)
  | _ => none

/-- The value read, or the default if there is none. -/
def orDefault {α : Type} (default : α) (read : Tree → Option α) (t : Option Tree) : Option α :=
  match t with
  | none => some default
  | some t => read t

def deviceKeys : List String := ["id", "mode", "store_path", "tick_interval_ms"]

def device? (t : Tree) : Option Device := do
  let [id, mode, storePath, tick] ← values? d deviceKeys t | none
  let base : Device := {}
  return {
    id := ← orDefault base.id text? id
    mode := ← orDefault base.mode (mode? d) mode
    storePath := ← orDefault base.storePath text? storePath
    tickIntervalMs := ← orDefault base.tickIntervalMs uint64? tick }

def linkKeys : List String :=
  [ "connection_timeout_ms", "reconnect_interval_ms", "max_reconnect_interval_ms",
    "max_reconnect_attempts" ]

def link? (t : Tree) : Option Link := do
  let [timeout, interval, maxInterval, attempts] ← values? d linkKeys t | none
  let base : Link := {}
  return {
    connectionTimeoutMs := ← orDefault base.connectionTimeoutMs uint32? timeout
    reconnectIntervalMs := ← orDefault base.reconnectIntervalMs uint32? interval
    maxReconnectIntervalMs := ← orDefault base.maxReconnectIntervalMs uint32? maxInterval
    maxReconnectAttempts := ← orDefault base.maxReconnectAttempts uint32? attempts }

def brokerKeys : List String :=
  [ "connection_timeout_ms", "reconnect_interval_ms", "max_reconnect_interval_ms",
    "keep_alive_secs", "max_payload_bytes", "topic_prefix" ]

def broker? (t : Tree) : Option Broker := do
  let [timeout, interval, maxInterval, keepAlive, payload, root] ← values? d brokerKeys t | none
  let base : Broker := {}
  return {
    connectionTimeoutMs := ← orDefault base.connectionTimeoutMs uint32? timeout
    reconnectIntervalMs := ← orDefault base.reconnectIntervalMs uint32? interval
    maxReconnectIntervalMs := ← orDefault base.maxReconnectIntervalMs uint32? maxInterval
    keepAliveSecs := ← orDefault base.keepAliveSecs uint16? keepAlive
    maxPayloadBytes := ← orDefault base.maxPayloadBytes size? payload
    topicRoot := ← orDefault base.topicRoot text? root }

def relayKeys : List String := ["port", "baud_rate", "status_interval_ms", "max_frame_bytes"]

def relay? (t : Tree) : Option Relay := do
  let [port, baudRate, interval, frame] ← values? d relayKeys t | none
  let base : Relay := {}
  return {
    port := ← orDefault base.port text? port
    baudRate := ← orDefault base.baudRate uint32? baudRate
    statusIntervalMs := ← orDefault base.statusIntervalMs uint32? interval
    maxFrameBytes := ← orDefault base.maxFrameBytes size? frame }

def sections : List String := ["device", "link", "broker", "relay"]

def settings? (t : Tree) : Option Settings := do
  let [device, link, broker, relay] ← values? d sections t | none
  return {
    device := ← orDefault {} (device? d) device
    link := ← orDefault {} (link? d) link
    broker := ← orDefault {} (broker? d) broker
    relay := ← orDefault {} (relay? d) relay }

end Tree
end Telemetry.Settings
