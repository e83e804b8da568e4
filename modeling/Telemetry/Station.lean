import Telemetry.Broker.Basic
import Telemetry.Link.Basic

/-!
# The station

A device with a radio and a broker session of its own: both managers on one board, driven from one
tick. The link is served first, so that the broker sees whether it is up.
-/

namespace Telemetry

/-- What a device knows of its connections. -/
structure Connectivity where
  link : Bool := false
  broker : Bool := false
  /-- The device's address in the network. -/
  address : Option String := none
  deriving DecidableEq, Repr

def Connectivity.isOnline (c : Connectivity) : Bool := c.link && c.broker

structure Station (ρ β σ : Type) extends Board σ where
  linkState : Link.State ρ
  brokerState : Broker.State β

namespace Station

variable {ρ β σ : Type}

/-! ## The managers on the board -/

def link (s : Station ρ β σ) : Link ρ σ := { s.linkState, s.toBoard with }

def broker (s : Station ρ β σ) : Broker β σ := { s.brokerState, s.toBoard with }

def withLink (s : Station ρ β σ) (l : Link ρ σ) : Station ρ β σ :=
  { s with toBoard := l.toBoard, linkState := l.toState }

def withBroker (s : Station ρ β σ) (b : Broker β σ) : Station ρ β σ :=
  { s with toBoard := b.toBoard, brokerState := b.toState }

def onLink (f : Link ρ σ → Link ρ σ) (s : Station ρ β σ) : Station ρ β σ := s.withLink (f s.link)

def onBroker (f : Broker β σ → Broker β σ) (s : Station ρ β σ) : Station ρ β σ :=
  s.withBroker (f s.broker)

/-- An operation on the link with an answer. -/
def askLink {α : Type} (f : Link ρ σ → α × Link ρ σ) (s : Station ρ β σ) : α × Station ρ β σ :=
  let r := f s.link
  (r.1, s.withLink r.2)

/-- An operation on the broker with an answer. -/
def askBroker {α : Type} (f : Broker β σ → α × Broker β σ) (s : Station ρ β σ) :
    α × Station ρ β σ :=
  let r := f s.broker
  (r.1, s.withBroker r.2)

@[simp] theorem link_withLink (s : Station ρ β σ) (l : Link ρ σ) : (s.withLink l).link = l := rfl

@[simp] theorem broker_withBroker (s : Station ρ β σ) (b : Broker β σ) :
    (s.withBroker b).broker = b := rfl

@[simp] theorem brokerState_withLink (s : Station ρ β σ) (l : Link ρ σ) :
    (s.withLink l).brokerState = s.brokerState := rfl

@[simp] theorem linkState_withBroker (s : Station ρ β σ) (b : Broker β σ) :
    (s.withBroker b).linkState = s.linkState := rfl

/-! ## Operations -/

section Radio

variable [Radio ρ]

def connectivity (s : Station ρ β σ) : Connectivity :=
  { link := s.link.isConnected, broker := s.broker.isConnected, address := s.link.address? }

variable [Client β]

def tick (s : Station ρ β σ) : Station ρ β σ :=
  let s := s.onLink Link.tick
  s.onBroker (Broker.tick s.link.isConnected)

def publish (r : Record) (s : Station ρ β σ) : Delivery × Station ρ β σ :=
  s.askBroker (Broker.publishRecord r)

/-- The station after a restart: the link is loaded and turned on as it was, then the broker. -/
def start [Storage σ] (settings : Settings) (watched : Bool) (radio : ρ) (client : β)
    (board : Board σ) : Station ρ β σ :=
  let link := (Link.load settings.link watched radio board).init
  let broker :=
    (Broker.load settings.broker settings.device.id watched client link.toBoard).init
      link.isConnected
  { broker.toBoard with linkState := link.toState, brokerState := broker.toState }

end Radio

end Station
end Telemetry
