import Telemetry.Transport
import Telemetry.Text.Utf8

/-!
# MQTT sessions

How a session is opened, what its packets mean for it, and the client that has not opened one.
-/

namespace Telemetry.Mqtt

open Transport

/-! ## Options -/

/-- The promise of a last message. -/
structure Will where
  topic : String
  message : List UInt8
  qos : Nat
  retain : Bool
  deriving DecidableEq, Repr

structure Options where
  clientId : String
  host : String
  port : UInt16
  keepAliveSecs : Nat
  cleanSession : Bool
  /-- User name and password. -/
  login : Option (String × String)
  will : Will
  deriving DecidableEq, Repr

/-- The shortest keep-alive that brokers are asked for. -/
def minKeepAlive : Nat := 5

/-- Each message is delivered at least once. -/
def atLeastOnce : Nat := 1

/-- There is no login without a user name; a missing password is empty. -/
def login? (o : ConnectOptions) : Option (String × String) :=
  match o.username with
  | some user => if user.isEmpty then none else some (user, o.password.getD "")
  | none => none

def Options.ofConnect (o : ConnectOptions) : Options :=
  { clientId := o.clientId
    host := o.host
    port := o.port
    keepAliveSecs := max o.keepAliveSecs.toNat minKeepAlive
    cleanSession := true
    login := login? o
    will :=
      { topic := o.lastWill.topic
        message := Text.utf8 o.lastWill.payload
        qos := atLeastOnce
        retain := o.lastWill.retain } }

/-! ## Packets -/

/-- The broker's answer to a request for a session. -/
inductive ConnectCode
  | success
  | refusedProtocolVersion
  | badClientId
  | serviceUnavailable
  | badUserNamePassword
  | notAuthorized
  deriving DecidableEq, Repr

def ConnectCode.all : List ConnectCode :=
  [success, refusedProtocolVersion, badClientId, serviceUnavailable, badUserNamePassword,
    notAuthorized]

def ConnectCode.name : ConnectCode → String
  | success => "Success"
  | refusedProtocolVersion => "RefusedProtocolVersion"
  | badClientId => "BadClientId"
  | serviceUnavailable => "ServiceUnavailable"
  | badUserNamePassword => "BadUserNamePassword"
  | notAuthorized => "NotAuthorized"

/-- What comes in from the broker. -/
inductive Incoming
  | connectAck (code : ConnectCode) (sessionPresent : Bool)
  | disconnect
  | pingRequest
  | pingResponse
  | publishAck (packet : Nat)
  deriving DecidableEq, Repr

/-- What goes out to the broker. -/
inductive Outgoing
  | disconnect
  | pingRequest
  | pingResponse
  | publish (packet : Nat)
  | publishAck (packet : Nat)
  | subscribe (packet : Nat)
  | awaitAck (packet : Nat)
  deriving DecidableEq, Repr

inductive Packet
  | incoming (p : Incoming)
  | outgoing (p : Outgoing)
  deriving DecidableEq, Repr

/-- What a packet means for the session. -/
inductive Effect
  | established
  | refused (code : ConnectCode)
  | closed
  /-- No change; the packet is described for the log. -/
  | traffic (description : String)
  deriving DecidableEq, Repr

/-- A name with an argument in parentheses. -/
def applied (name argument : String) : String := name ++ "(" ++ argument ++ ")"

def Incoming.effect : Incoming → Effect
  | connectAck .success _ => .established
  | connectAck code _ => .refused code
  | disconnect => .closed
  | pingRequest => .traffic "PingReq"
  | pingResponse => .traffic "PingResp"
  | publishAck n => .traffic (applied "PubAck" s!"PubAck \x7b pkid: {n} \x7d")

def Outgoing.effect : Outgoing → Effect
  | disconnect => .closed
  | pingRequest => .traffic "PingReq"
  | pingResponse => .traffic "PingResp"
  | publish n => .traffic (applied "Publish" (toString n))
  | publishAck n => .traffic (applied "PubAck" (toString n))
  | subscribe n => .traffic (applied "Subscribe" (toString n))
  | awaitAck n => .traffic (applied "AwaitAck" (toString n))

def Packet.effect : Packet → Effect
  | incoming p => p.effect
  | outgoing p => p.effect

/-! ## A client without a session -/

/-- A client whose session is never established: it takes requests for one, and refuses messages. -/
structure IdleClient where
  deriving DecidableEq, Repr

instance : Client IdleClient where
  connect _ c := (.ok (), c)
  isConnected _ := false
  disconnect c := c
  publish _ c := (.error (.unavailable "broker session not established"), c)

end Telemetry.Mqtt
