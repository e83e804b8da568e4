import Telemetry.Proofs.Relay.Lines

/-!
# Two units on a wire

The main unit and the companion are joined by two channels, one in either direction. A channel loses no
byte and keeps them in order; bytes that were written are on their way until they are delivered, any number
at a time. Between the acts of the units anything may happen around them.
-/

namespace Telemetry.Relay

/-- One end of the wire. -/
structure Port where
  /-- The bytes that have arrived. -/
  inbound : List UInt8 := []
  /-- The bytes that are on their way to the other end. -/
  outbound : List UInt8 := []
  deriving DecidableEq, Repr

namespace Port

def writeLine (line : String) (p : Port) : Except Transport.Error Unit × Port :=
  (.ok (), { p with outbound := p.outbound ++ stream [line] })

def read (limit : Nat) (p : Port) : Except Transport.Error (List UInt8) × Port :=
  (.ok (p.inbound.take limit), { p with inbound := p.inbound.drop limit })

instance : Wire Port where
  writeLine := writeLine
  read := read

/-- Carries bytes over; as many as there are, if there are fewer. -/
def carry (count : Nat) (source target : Port) : Port × Port :=
  ({ source with outbound := source.outbound.drop count },
    { target with inbound := target.inbound ++ source.outbound.take count })

end Port

structure Pair (ρ β σ : Type) where
  main : MainUnit Port
  companion : Companion Port ρ β σ

namespace Pair

variable {ρ β σ : Type}

/-- The two units as they are built, each from its own settings. -/
def join (main companion : Settings) (journal : Journal) (station : Station ρ β σ) : Pair ρ β σ :=
  { main := .start main {} journal
    companion := .start companion {} station }

/-- The bytes that the companion has written and the main unit has not handled. -/
def inFlight (p : Pair ρ β σ) : List UInt8 :=
  p.main.assembler.buffer.toList ++ p.main.wire.inbound ++ p.companion.wire.outbound

/-- What can happen. -/
inductive Act (ρ β σ : Type)
  | mainInit
  | mainTick
  | publish (record : Record)
  | companionTick
  | console (line : String)
  /-- Calls on the managers of the companion, which bypass it. -/
  | manage (calls : Station ρ β σ → Station ρ β σ)
  /-- Around the companion: its radio, its client, its clock and its store have changed. -/
  | surround (radio : ρ) (client : β) (board : Board σ)
  /-- Time has passed for the main unit. -/
  | mainClock (clock : Clock)
  /-- Bytes reach the companion. -/
  | deliverDown (count : Nat)
  /-- Bytes reach the main unit. -/
  | deliverUp (count : Nat)

/-- Is it an act of the companion or of its managers? -/
def Act.isCompanion : Act ρ β σ → Bool
  | companionTick | console _ | manage _ => true
  | mainInit | mainTick | publish _ | surround _ _ _ | mainClock _ | deliverDown _ | deliverUp _ =>
    false

def surround (radio : ρ) (client : β) (board : Board σ) (s : Station ρ β σ) : Station ρ β σ :=
  { board with
    linkState := { s.linkState with radio }
    brokerState := { s.brokerState with client } }

variable [Radio ρ] [Client β] [Storage σ]

def perform (act : Act ρ β σ) (p : Pair ρ β σ) : Pair ρ β σ :=
  match act with
  | .mainInit => { p with main := p.main.init }
  | .mainTick => { p with main := p.main.tick }
  | .publish record => { p with main := (p.main.publish record).2 }
  | .companionTick => { p with companion := p.companion.tick }
  | .console line => { p with companion := (p.companion.console line).2 }
  | .manage calls => { p with companion := p.companion.onStation calls }
  | .surround radio client board =>
    { p with companion := p.companion.onStation (Pair.surround radio client board) }
  | .mainClock clock => { p with main := { p.main with toClock := clock } }
  | .deliverDown count =>
    let moved := Port.carry count p.main.wire p.companion.wire
    { main := { p.main with wire := moved.1 }, companion := { p.companion with wire := moved.2 } }
  | .deliverUp count =>
    let moved := Port.carry count p.companion.wire p.main.wire
    { main := { p.main with wire := moved.2 }, companion := { p.companion with wire := moved.1 } }

def run (acts : List (Act ρ β σ)) (p : Pair ρ β σ) : Pair ρ β σ :=
  acts.foldl (fun p act => p.perform act) p

theorem run_cons (act : Act ρ β σ) (acts : List (Act ρ β σ)) (p : Pair ρ β σ) :
    p.run (act :: acts) = (p.perform act).run acts := rfl

theorem run_append (x y : List (Act ρ β σ)) (p : Pair ρ β σ) : p.run (x ++ y) = (p.run x).run y :=
  List.foldl_append

end Pair
end Telemetry.Relay
