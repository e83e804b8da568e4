import Telemetry.Bench.Equipment
import Telemetry.Relay.Companion
import Telemetry.Relay.MainUnit

/-!
# Bench sessions

A session runs one part of a device, or both units of a relay, on scripted equipment. Before each
operation the equipment is put in place, and afterwards it is taken back with the events of the
operation. A restart builds the parts anew on the same equipment.
-/

namespace Telemetry.Bench

open Relay (MainUnit Companion)

/-- What a session runs. -/
inductive Kind
  | link
  | broker
  | station
  | mainUnit
  | companion
  /-- Both ends of a relay, on one clock. -/
  | relay
  deriving DecidableEq, Repr

inductive Subject
  | link (l : Link Radio Store.Flash)
  | broker (b : Broker Client Store.Flash)
  | station (s : Station Radio Client Store.Flash)
  | mainUnit (u : MainUnit Wire)
  | companion (c : Companion Wire Radio Client Store.Flash)
  | relay (u : MainUnit Wire) (c : Companion Wire Radio Client Store.Flash)

namespace Equipment

def board (e : Equipment) : Board Store.Flash := { now := e.now, store := e.store }

/-! ## Putting the equipment in place and taking it back -/

def intoLink (e : Equipment) (l : Link Radio Store.Flash) : Link Radio Store.Flash :=
  { l with toBoard := e.board, radio := e.radio }

def intoBroker (e : Equipment) (b : Broker Client Store.Flash) : Broker Client Store.Flash :=
  { b with toBoard := e.board, client := e.client }

def intoStation (e : Equipment) (s : Station Radio Client Store.Flash) :
    Station Radio Client Store.Flash :=
  { toBoard := e.board
    linkState := { s.linkState with radio := e.radio }
    brokerState := { s.brokerState with client := e.client } }

def intoMainUnit (e : Equipment) (u : MainUnit Wire) : MainUnit Wire :=
  { u with now := e.now, trace := [], wire := e.mainWire }

def intoCompanion (e : Equipment) (c : Companion Wire Radio Client Store.Flash) :
    Companion Wire Radio Client Store.Flash :=
  { c with toStation := e.intoStation c.toStation, wire := e.companionWire }

def into (e : Equipment) : Subject → Subject
  | .link l => .link (e.intoLink l)
  | .broker b => .broker (e.intoBroker b)
  | .station s => .station (e.intoStation s)
  | .mainUnit u => .mainUnit (e.intoMainUnit u)
  | .companion c => .companion (e.intoCompanion c)
  | .relay u c => .relay (e.intoMainUnit u) (e.intoCompanion c)

def fromStation (s : Station Radio Client Store.Flash) (e : Equipment) : Equipment :=
  { e with store := s.store, radio := s.linkState.radio, client := s.brokerState.client }

def fromCompanion (c : Companion Wire Radio Client Store.Flash) (e : Equipment) : Equipment :=
  { e.fromStation c.toStation with companionWire := c.wire }

def outOf (e : Equipment) : Subject → Equipment
  | .link l => { e with store := l.store, radio := l.radio }
  | .broker b => { e with store := b.store, client := b.client }
  | .station s => e.fromStation s
  | .mainUnit u => { e with mainWire := u.wire }
  | .companion c => e.fromCompanion c
  | .relay u c => { e.fromCompanion c with mainWire := u.wire }

end Equipment

namespace Subject

def trace : Subject → List Event
  | .link l => l.trace
  | .broker b => b.trace
  | .station s => s.trace
  | .mainUnit u => u.trace
  | .companion c => c.trace
  | .relay u c => u.trace ++ c.trace

/-- The subject of a session as it is after a restart. The managers of a station are brought up as
they were; single parts are not. -/
def start (kind : Kind) (settings : Settings) (watched : Bool) (e : Equipment) : Subject :=
  let station := Station.start settings watched e.radio e.client e.board
  let companion := Companion.start settings e.companionWire station
  let mainUnit := MainUnit.start settings e.mainWire { now := e.now }
  match kind with
  | .link => .link (Link.load settings.link watched e.radio e.board)
  | .broker => .broker (Broker.load settings.broker settings.device.id watched e.client e.board)
  | .station => .station station
  | .mainUnit => .mainUnit mainUnit
  | .companion => .companion companion
  | .relay => .relay mainUnit companion

/-! ## The parts of a subject -/

variable {α : Type}

def companion? : Subject → Option (Companion Wire Radio Client Store.Flash)
  | .companion c | .relay _ c => some c
  | _ => none

def station? : Subject → Option (Station Radio Client Store.Flash)
  | .station s => some s
  | s => s.companion?.map (·.toStation)

def link? : Subject → Option (Link Radio Store.Flash)
  | .link l => some l
  | s => s.station?.map (·.link)

def broker? : Subject → Option (Broker Client Store.Flash)
  | .broker b => some b
  | s => s.station?.map (·.broker)

def mainUnit? : Subject → Option (MainUnit Wire)
  | .mainUnit u | .relay u _ => some u
  | _ => none

/-! ## Operations on a part -/

def askCompanion
    (f : Companion Wire Radio Client Store.Flash →
      α × Companion Wire Radio Client Store.Flash) : Subject → Option (α × Subject)
  | .companion c => let r := f c; some (r.1, .companion r.2)
  | .relay u c => let r := f c; some (r.1, .relay u r.2)
  | _ => none

def askStation
    (f : Station Radio Client Store.Flash → α × Station Radio Client Store.Flash) :
    Subject → Option (α × Subject)
  | .station s => let r := f s; some (r.1, .station r.2)
  | s => s.askCompanion (·.askStation f)

def askLink (f : Link Radio Store.Flash → α × Link Radio Store.Flash) :
    Subject → Option (α × Subject)
  | .link l => let r := f l; some (r.1, .link r.2)
  | s => s.askStation (·.askLink f)

def askBroker (f : Broker Client Store.Flash → α × Broker Client Store.Flash) :
    Subject → Option (α × Subject)
  | .broker b => let r := f b; some (r.1, .broker r.2)
  | s => s.askStation (·.askBroker f)

def askMainUnit (f : MainUnit Wire → α × MainUnit Wire) : Subject → Option (α × Subject)
  | .mainUnit u => let r := f u; some (r.1, .mainUnit r.2)
  | .relay u c => let r := f u; some (r.1, .relay r.2 c)
  | _ => none

end Subject

structure Session where
  kind : Kind
  settings : Settings
  watched : Bool
  equipment : Equipment
  subject : Subject
  /-- All events so far. -/
  history : List Event := []

namespace Session

/-- Takes the equipment back after an operation. -/
def settle (subject : Subject) (s : Session) : Session :=
  { s with
    subject
    equipment := s.equipment.outOf subject
    history := s.history ++ subject.trace }

/-- The session after a restart, and the events of it. -/
def restart (s : Session) : List Event × Session :=
  let subject := Subject.start s.kind s.settings s.watched s.equipment
  (subject.trace, s.settle subject)

def start (kind : Kind) (settings : Settings) (watched : Bool) (equipment : Equipment) :
    List Event × Session :=
  let subject := Subject.start kind settings watched equipment
  let s : Session := { kind, settings, watched, equipment, subject }
  (subject.trace, s.settle subject)

/-- An operation on the subject: its answer, its events and the session after it. -/
def run {α : Type} (f : Subject → Option (α × Subject)) (s : Session) :
    Option (α × List Event × Session) :=
  (f (s.equipment.into s.subject)).map fun r => (r.1, r.2.trace, s.settle r.2)

/-- A change of the equipment between operations. -/
def adjust (f : Equipment → Equipment) (s : Session) : Session :=
  let equipment := f s.equipment
  { s with equipment, subject := equipment.into s.subject }

/-- Carries the lines of the main unit to its companion, and tells how many there were. -/
def carryUp (s : Session) : Nat × Session :=
  (s.equipment.mainWire.pending.length,
    s.adjust fun e =>
      let r := carry e.mainWire e.companionWire
      { e with mainWire := r.1, companionWire := r.2 })

/-- Carries the lines of the companion to the main unit, and tells how many there were. -/
def carryDown (s : Session) : Nat × Session :=
  (s.equipment.companionWire.pending.length,
    s.adjust fun e =>
      let r := carry e.companionWire e.mainWire
      { e with companionWire := r.1, mainWire := r.2 })

end Session
end Telemetry.Bench
