import Telemetry.Backoff
import Telemetry.Board
import Telemetry.Endpoint
import Telemetry.Indicator
import Telemetry.Outbox
import Telemetry.Record
import Telemetry.Settings.Basic
import Telemetry.Text.Utf8

/-!
# The broker manager

The broker manager keeps a session with the message broker and delivers records over it. It connects
only while the link is up. A message that cannot be sent at once waits in the outbox, which is drained
a little at each tick of a standing session. Turning the broker off drops what waits.
-/

namespace Telemetry

open Transport

/-- The broker manager without the board that it shares with others. -/
structure Broker.State (β : Type) where
  client : β
  settings : Settings.Broker
  topics : Topics
  endpoint : Option Endpoint := none
  enabled : Bool := false
  indicator : Indicator := { status := .disabled }
  backoff : Backoff
  /-- When the last session was requested. -/
  startedAt : UInt32 := 0
  outbox : Outbox := {}
  /-- Are the senders told what becomes of their messages? -/
  reporting : Bool := false
  deriving DecidableEq, Repr

structure Broker (β σ : Type) extends Broker.State β, Board σ

namespace Broker

variable {β σ : Type}

def presenceOnline : String := "online"

def presenceOffline : String := "offline"

def status (b : Broker β σ) : Status := b.indicator.status

def isConnected (b : Broker β σ) : Bool := b.status.isConnected

def isConfigured (b : Broker β σ) : Bool := b.endpoint.isSome

def hasUsername (b : Broker β σ) : Bool := (b.endpoint.bind (·.username)).isSome

def pending (b : Broker β σ) : Nat := b.outbox.size

/-! ## The parts of an operation -/

def record (e : Event) (b : Broker β σ) : Broker β σ := { b with trace := b.trace ++ [e] }

/-- Takes the next reading of the clock. -/
def look (b : Broker β σ) : Broker β σ := { b with toClock := b.toClock.look }

/-- Tells the watcher, if there is a notice to tell. -/
def notify (notice : Option Status) (b : Broker β σ) : Broker β σ :=
  match notice with
  | some s => b.record (.brokerNotice s)
  | none => b

/-- Takes on a status. -/
def become (s : Status) (b : Broker β σ) : Broker β σ :=
  let r := b.indicator.set s
  { b with indicator := r.1 }.notify r.2

def beginTick (b : Broker β σ) : Broker β σ := { b with indicator := b.indicator.beginTick }

def endTick (b : Broker β σ) : Broker β σ :=
  let r := b.indicator.endTick
  { b with indicator := r.1 }.notify r.2

def resetBackoff (b : Broker β σ) : Broker β σ := { b with backoff := b.backoff.reset }

/-- Tells the sender what became of its message. -/
def report (id : UInt32) (d : Delivery) (b : Broker β σ) : Broker β σ :=
  if b.reporting then b.record (.report id d) else b

/-- Tells the sender of an entry that left the outbox; one that stays is not reported. -/
def reportOutcome (b : Broker β σ) : Outbox.Outcome → Broker β σ
  | .delivered id => b.report id .success
  | .dropped id => b.report id .dropped
  | .requeued _ _ => b

/-- Empties the outbox and reports each entry as dropped. -/
def discard (b : Broker β σ) : Broker β σ :=
  b.outbox.entries.foldl (fun b e => b.report e.id .dropped) { b with outbox := .empty }

/-- The options of a session with the endpoint; the last will takes the presence back. -/
def connectOptions (e : Endpoint) (b : Broker β σ) : ConnectOptions :=
  { clientId := b.topics.deviceId
    host := e.host
    port := e.port
    username := e.username
    password := e.password
    keepAliveSecs := b.settings.keepAliveSecs
    lastWill := { topic := b.topics.presence, payload := presenceOffline, retain := true } }

section Storage

variable [Storage σ]

/-- The endpoint in the store, if it is complete and valid. -/
def stored? (store : σ) : Option Endpoint :=
  match Storage.string? Store.brokerHost store, Storage.integer? Store.brokerPort store with
  | some host, some port =>
    if 0 ≤ port.toInt ∧ port.toInt < 65536 then
      (Endpoint.make host (UInt16.ofNat port.toInt.toNat)
        (Storage.string? Store.brokerUsername store)
        (Storage.string? Store.brokerPassword store)).toOption
    else none
  | _, _ => none

/-- Keeps the intent; a store that refuses is passed over. -/
def persist (enabled : Bool) (b : Broker β σ) : Broker β σ :=
  { b with store := (Storage.put Store.brokerEnabled (some (.bool enabled)) b.store).2 }

end Storage

section Client

variable [Client β]

def closeSession (b : Broker β σ) : Broker β σ :=
  { b with client := Client.disconnect b.client }.record .closeSession

/-- Hands a message to the client; the first component tells whether it was accepted. -/
def send (m : Message) (b : Broker β σ) : Bool × Broker β σ :=
  let r := Client.publish m b.client
  (accepted r.1, { b with client := r.2 }.record (.send m (accepted r.1)))

/-- The message that announces the device. -/
def presence (retain : Bool) (b : Broker β σ) : Message :=
  { topic := b.topics.presence, payload := Text.utf8 presenceOnline, retain }

/-- Requests a session, on a reading of its own. The waiting time of the backoff counts from there if no
attempt has been made yet. -/
def openSession (e : Endpoint) (b : Broker β σ) : Broker β σ :=
  let options := b.connectOptions e
  let b := b.look
  let r := Client.connect options b.client
  let b :=
    { b with
      client := r.2
      startedAt := b.now
      backoff := if b.backoff.attempts = 0 then b.backoff.markStarted b.now else b.backoff }
  let b := b.record (.openSession options (accepted r.1))
  b.become (if accepted r.1 then .connecting else .disconnected)

def connect (b : Broker β σ) : Broker β σ :=
  match b.endpoint with
  | some e => b.openSession e
  | none => b.become .error

/-- Makes the next attempt if the backoff allows one. -/
def reconnectIfDue (b : Broker β σ) : Broker β σ :=
  match b.backoff.poll b.now with
  | (.attempt _, backoff) => { b with backoff }.connect
  | _ => b

/-- The message of an entry of the outbox. -/
def message (e : Outbox.Entry) : Message :=
  { topic := e.topic, payload := e.payload, retain := true }

/-- Sends entries in order and collects the answers. -/
def sendEach : List Outbox.Entry → Broker β σ → List Bool × Broker β σ
  | [], b => ([], b)
  | e :: rest, b =>
    let r := b.send (message e)
    let s := sendEach rest r.2
    (r.1 :: s.1, s.2)

/-- Tries the entries that are due, then reports those that left the outbox. -/
def drain (b : Broker β σ) : Broker β σ :=
  let r := b.sendEach b.outbox.due
  let d := b.outbox.drain r.1
  d.1.foldl reportOutcome { r.2 with outbox := d.2 }

/-- The work of a tick while the link is down: the session is abandoned. -/
def park (b : Broker β σ) : Broker β σ :=
  let b := if b.status.isActive then b.closeSession else b
  (b.become .error).resetBackoff

/-- The work of a tick while the link is up. -/
def advance (b : Broker β σ) : Broker β σ :=
  match b.status with
  | .connecting =>
    if Client.isConnected b.client then
      let b := (b.become .connected).resetBackoff
      (b.send (b.presence true)).2.drain
    else if b.settings.connectionTimeoutMs < Clock.elapsed b.now b.startedAt then
      (b.closeSession.become .disconnected).reconnectIfDue
    else b
  | .connected =>
    if Client.isConnected b.client then b.drain
    else ((b.become .disconnected).resetBackoff).reconnectIfDue
  | .disconnected | .error => b.reconnectIfDue
  | .disabled => b

/-! ## Operations -/

def tick (linkUp : Bool) (b : Broker β σ) : Broker β σ :=
  if b.enabled then (if linkUp then b.beginTick.look.advance else b.beginTick.park).endTick else b

/-- Puts a message into the outbox if there is room. -/
def enqueue (e : Outbox.Entry) (b : Broker β σ) : Delivery × Broker β σ :=
  match b.outbox.push e with
  | .ok outbox => (.queued, { b with outbox })
  | .error _ => (.dropped, b)

/-- Sends a message now if that is possible, else puts it into the outbox if there is room. -/
def deliver (id : UInt32) (topic : String) (payload : List UInt8) (b : Broker β σ) :
    Delivery × Broker β σ :=
  if !b.enabled || b.settings.maxPayloadBytes < payload.length then (.dropped, b)
  else if b.isConnected then
    let r := b.send { topic, payload, retain := true }
    if r.1 then (.success, r.2) else r.2.enqueue { id, topic, payload }
  else b.enqueue { id, topic, payload }

/-- Delivers a message and reports what became of it. -/
def publish (id : UInt32) (topic : String) (payload : List UInt8) (b : Broker β σ) :
    Delivery × Broker β σ :=
  let r := b.deliver id topic payload
  (r.1, r.2.report id r.1)

/-- Publishes a record on the topic of its item. -/
def publishRecord (r : Record) (b : Broker β σ) : Delivery × Broker β σ :=
  match r.encode b.settings.maxPayloadBytes with
  | .ok payload => b.publish r.id (b.topics.item r.id) (Text.utf8 payload)
  | .error _ => (.dropped, b.report r.id .dropped)

/-- Sends a presence message that is not kept; was it accepted? -/
def testConnection (b : Broker β σ) : Bool × Broker β σ :=
  if b.isConnected then b.send (b.presence false) else (false, b)

variable [Storage σ]

/-- Turns the broker on. While the link is down it waits in `error`. -/
def enable (linkUp : Bool) (b : Broker β σ) : Broker β σ :=
  if b.enabled && b.status != .disabled then b
  else if !b.isConfigured then b.become .error
  else
    let b := ({ b with enabled := true }.persist true).resetBackoff
    if linkUp then b.connect else b.become .error

def disable (b : Broker β σ) : Broker β σ :=
  (({ b with enabled := false }.closeSession.discard).persist false).become .disabled

/-- Restores the intent in the store. -/
def init (linkUp : Bool) (b : Broker β σ) : Broker β σ :=
  if Storage.bool? Store.brokerEnabled b.store = some true ∧ b.isConfigured then b.enable linkUp
  else b

/-- Keeps a new endpoint in the store and adopts it; a session that stands is left alone. -/
def setEndpoint (host : String) (port : UInt16) (username password : Option String)
    (b : Broker β σ) : Except Failure Unit × Broker β σ :=
  match Endpoint.make host port username password with
  | .error e => (.error e.failure, b)
  | .ok e =>
    let r := Storage.putAll
      [ (Store.brokerHost, some (.string e.host)),
        (Store.brokerPort, some (.integer (Int64.ofNat e.port.toNat))),
        (Store.brokerUsername, e.username.map .string),
        (Store.brokerPassword, e.password.map .string) ]
      b.store
    let b := { b with store := r.2 }
    match r.1 with
    | .error f => (.error (.storage f), b)
    | .ok () => (.ok (), { b with endpoint := some e })

/-- Turns the broker off and forgets the endpoint. -/
def clearEndpoint (b : Broker β σ) : Except Failure Unit × Broker β σ :=
  let b := if b.enabled then b.disable else b
  let r := Storage.putEach
    [ (Store.brokerHost, none), (Store.brokerPort, none), (Store.brokerUsername, none),
      (Store.brokerPassword, none) ]
    b.store
  let b := { b with store := r.2 }
  match r.1 with
  | .error e => (.error (.storage e), b)
  | .ok () => (.ok (), { b with endpoint := none })

end Client

/-- The broker manager as it is after a restart, before `init`. -/
def load [Storage σ] (settings : Settings.Broker) (deviceId : String) (watched : Bool) (client : β)
    (board : Board σ) : Broker β σ :=
  { board with
    client
    settings
    topics := { root := settings.topicRoot, deviceId }
    endpoint := stored? board.store
    indicator := { status := .disabled, watched }
    backoff := Backoff.ofPolicy settings.policy
    reporting := watched }

def diagnostic (b : Broker β σ) : String :=
  open Text.Diagnostic in
  Text.Diagnostic.record "BrokerManager"
    [ ("enabled", toString b.enabled),
      ("status", b.status.title),
      ("config", option (b.endpoint.map Endpoint.diagnostic)),
      ("pending", toString b.pending) ]

end Broker
end Telemetry
