import Telemetry.Store.Flash
import Telemetry.Text.Utf8
import Telemetry.Transport

/-!
# Scripted equipment

A radio, a broker client and wires that do as they are told and keep count, on which the managers can
be tried out. Nothing connects by itself: whoever runs the bench says when a connection stands.
-/

namespace Telemetry.Bench

open Transport

structure Radio where
  connected : Bool := false
  refuses : Bool := false
  /-- The address shown in place of the usual one. -/
  shownAddress : Option (Option String) := none
  signal : Int := -60
  associations : Nat := 0
  dissociations : Nat := 0
  lastIdentity : Option String := none
  deriving DecidableEq, Repr

namespace Radio

def usualAddress : String := "192.168.1.50"

def associate (identity _secret : String) (r : Radio) : Except Error Unit × Radio :=
  let r := { r with associations := r.associations + 1, lastIdentity := some identity }
  (if r.refuses then .error (.unavailable "radio busy") else .ok (), r)

instance : Telemetry.Radio Radio where
  associate := associate
  isConnected r := r.connected
  disconnect _ r := { r with connected := false, dissociations := r.dissociations + 1 }
  address r := r.shownAddress.getD (if r.connected then some usualAddress else none)
  signal r := r.signal

end Radio

structure Client where
  connected : Bool := false
  refusesSessions : Bool := false
  refusesMessages : Bool := false
  /-- For the next messages: whether they get a chance at all. -/
  plan : List Bool := []
  sessions : Nat := 0
  closings : Nat := 0
  attempts : Nat := 0
  published : List Message := []
  lastOptions : Option ConnectOptions := none
  deriving DecidableEq, Repr

namespace Client

def refusal : Error := .rejected "publish refused"

def connect (o : ConnectOptions) (c : Client) : Except Error Unit × Client :=
  if c.refusesSessions then (.error (.unavailable "client busy"), c)
  else (.ok (), { c with sessions := c.sessions + 1, lastOptions := some o })

/-- A message that the plan refuses does not count as an attempt. -/
def publish (m : Message) (c : Client) : Except Error Unit × Client :=
  let planned := c.plan.headD true
  let c := { c with plan := c.plan.tail }
  if !planned then (.error refusal, c)
  else
    let c := { c with attempts := c.attempts + 1 }
    if c.refusesMessages || !c.connected then (.error refusal, c)
    else (.ok (), { c with published := c.published ++ [m] })

instance : Telemetry.Client Client where
  connect := connect
  isConnected c := c.connected
  disconnect c := { c with connected := false, closings := c.closings + 1 }
  publish := publish

end Client

structure Wire where
  inbound : List UInt8 := []
  written : List String := []
  /-- How many of the written lines have been carried to the other side. -/
  carried : Nat := 0
  refusesWrites : Bool := false
  /-- How many reads succeed before every read fails. -/
  readsLeft : Option Nat := none
  deriving DecidableEq, Repr

namespace Wire

def failure : Error := .io "relay link down"

def writeLine (line : String) (w : Wire) : Except Error Unit × Wire :=
  if w.refusesWrites then (.error failure, w)
  else (.ok (), { w with written := w.written ++ [line] })

def read (limit : Nat) (w : Wire) : Except Error (List UInt8) × Wire :=
  if w.readsLeft = some 0 then (.error failure, w)
  else
    (.ok (w.inbound.take limit),
      { w with inbound := w.inbound.drop limit, readsLeft := w.readsLeft.map (· - 1) })

/-- The lines not carried yet, each with its terminator. -/
def pending (w : Wire) : List String := (w.written.drop w.carried).map (· ++ "\n")

instance : Telemetry.Wire Wire where
  writeLine := writeLine
  read := read

end Wire

/-- All that the managers run on. -/
structure Equipment where
  now : UInt32 := 0
  radio : Radio := {}
  client : Client := {}
  mainWire : Wire := {}
  companionWire : Wire := {}
  store : Store.Flash := {}
  deriving DecidableEq, Repr

/-- Carries what `source` has written to `target`. -/
def carry (source target : Wire) : Wire × Wire :=
  ({ source with carried := source.written.length },
    { target with inbound := target.inbound ++ source.pending.flatMap Text.utf8 })

end Telemetry.Bench
