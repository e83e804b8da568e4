import Telemetry.Proofs.Relay.Channel
import Telemetry.Proofs.Replay
import Telemetry.Proofs.Station.Run

/-!
# Runs of a device

A device is a station of its own, or one of the two units of a relay. A step of its run puts it into some
surroundings, where the hardware and the board may have become anything, and asks one thing of it.
-/

namespace Telemetry

namespace Station

variable {ρ β σ : Type}

structure Step (ρ β σ : Type) where
  radio : ρ
  client : β
  board : Board σ
  op : Op

/-- The station as it finds itself in the surroundings of a step. -/
def meet (step : Step ρ β σ) (s : Station ρ β σ) : Station ρ β σ :=
  Relay.Pair.surround step.radio step.client step.board s

def Step.ask [Radio ρ] [Client β] [Storage σ] (step : Step ρ β σ) (s : Station ρ β σ) :
    Answer × Station ρ β σ :=
  step.op.ask (s.meet step)

end Station

namespace Relay

namespace Companion

variable {ω ρ β σ : Type}

/-- What can be asked of a companion. -/
inductive Input
  | tick
  | console (text : String)
  /-- A line is handed in past the wire. -/
  | line (text : String)
  /-- A record is handed in past the wire. -/
  | publish (data : Json)
  /-- An operation of the station, past the companion. -/
  | station (op : Station.Op)

inductive Answer
  | done
  | printed (lines : List String)
  | delivery (delivery : Delivery)
  | station (answer : Station.Answer)

def Input.ask [Wire ω] [Radio ρ] [Client β] [Storage σ] (input : Input) (c : Companion ω ρ β σ) :
    Answer × Companion ω ρ β σ :=
  match input with
  | tick => (.done, c.tick)
  | console text => let r := c.console text; (.printed r.1, r.2)
  | line text => (.done, c.handle text)
  | publish data => let r := c.publishData data; (.delivery r.1, r.2)
  | station op => let r := c.askStation op.ask; (.station r.1, r.2)

structure Step (ω ρ β σ : Type) where
  wire : ω
  radio : ρ
  client : β
  board : Board σ
  input : Input

/-- The companion as it finds itself in the surroundings of a step. -/
def meet (step : Step ω ρ β σ) (c : Companion ω ρ β σ) : Companion ω ρ β σ :=
  { c.onStation (Pair.surround step.radio step.client step.board) with wire := step.wire }

def Step.ask [Wire ω] [Radio ρ] [Client β] [Storage σ] (step : Step ω ρ β σ) (c : Companion ω ρ β σ) :
    Answer × Companion ω ρ β σ :=
  step.input.ask (c.meet step)

end Companion

namespace MainUnit

variable {ω : Type}

/-- What can be asked of a main unit. -/
inductive Input
  | init
  | tick
  /-- A line is handed in past the wire. -/
  | line (text : String)
  | publish (record : Record)
  | publishRecord (record : Record)

inductive Answer
  | done
  | delivery (delivery : Delivery)
  | outcome (outcome : Except Failure Unit)

def Input.ask [Wire ω] (input : Input) (u : MainUnit ω) : Answer × MainUnit ω :=
  match input with
  | init => (.done, u.init)
  | tick => (.done, u.tick)
  | line text => (.done, u.handle text)
  | publish record => let r := u.publish record; (.delivery r.1, r.2)
  | publishRecord record => let r := u.publishRecord record; (.outcome r.1, r.2)

structure Step (ω : Type) where
  wire : ω
  journal : Journal
  input : Input

/-- The main unit as it finds itself in the surroundings of a step. -/
def meet (step : Step ω) (u : MainUnit ω) : MainUnit ω :=
  { u with wire := step.wire, toJournal := step.journal }

def Step.ask [Wire ω] (step : Step ω) (u : MainUnit ω) : Answer × MainUnit ω :=
  step.input.ask (u.meet step)

end MainUnit

end Relay

end Telemetry
