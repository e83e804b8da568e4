import Telemetry.Link.Basic

/-!
# Runs of the link manager

A run is a sequence of operations on one link manager. Before each of them the surroundings may have
changed: the radio has moved on, time has passed, and others have used the board. A turn is one operation of
a run together with the state that it found.
-/

namespace Telemetry.Link

variable {ρ σ : Type}

/-! ## Requests -/

section Requests

variable [Radio ρ]

/-- An association is requested, and nothing is shown of it yet. -/
def request (c : Credentials) (l : Link ρ σ) : Link ρ σ :=
  let r := Radio.associate c.identity c.secret l.radio
  let l' := l.look
  let asked : Link ρ σ :=
    { l' with
      radio := r.2
      startedAt := l'.now
      backoff := if l.backoff.attempts = 0 then l.backoff.markStarted l'.now else l.backoff }
  asked.record (.associate c.identity c.secret (Transport.accepted r.1))

/-- What is shown of a request. -/
def requestStatus (c : Credentials) (l : Link ρ σ) : Status :=
  if Transport.accepted (Radio.associate c.identity c.secret l.radio).1 then .connecting else .disconnected

theorem connect_eq (c : Credentials) (l : Link ρ σ) : l.connect c = (l.request c).become (l.requestStatus c) := rfl

end Requests

/-! ## Operations and runs -/

/-- The operations of the link manager. -/
inductive Op
  | init
  | enable
  | disable
  | tick
  | setCredentials (identity secret : String)
  | clearCredentials
  deriving DecidableEq

/-- Carries out an operation. One that cannot fail answers that it has not. -/
def Op.perform [Radio ρ] [Storage σ] (op : Op) (l : Link ρ σ) : Except Failure Unit × Link ρ σ :=
  match op with
  | init => (.ok (), l.init)
  | enable => (.ok (), l.enable)
  | disable => (.ok (), l.disable)
  | tick => (.ok (), l.tick)
  | setCredentials identity secret => l.setCredentials identity secret
  | clearCredentials => l.clearCredentials

/-- An operation, and the surroundings in which it is carried out. -/
structure Step (ρ σ : Type) where
  radio : ρ
  board : Board σ
  op : Op

/-- The link manager as it finds itself in the surroundings of a step. -/
def meet (s : Step ρ σ) (l : Link ρ σ) : Link ρ σ := { l with radio := s.radio, toBoard := s.board }

/-- An operation and the state that it finds. -/
structure Turn (ρ σ : Type) where
  op : Op
  before : Link ρ σ

section Run

variable [Radio ρ] [Storage σ]

def Turn.after (t : Turn ρ σ) : Link ρ σ := (t.op.perform t.before).2

def Turn.answer (t : Turn ρ σ) : Except Failure Unit := (t.op.perform t.before).1

/-- What the operation did to the world. -/
def Turn.events (t : Turn ρ σ) : List Event := t.after.trace.drop t.before.trace.length

/-- The turns of a run. -/
def turns : List (Step ρ σ) → Link ρ σ → List (Turn ρ σ)
  | [], _ => []
  | s :: rest, l =>
    let t : Turn ρ σ := { op := s.op, before := l.meet s }
    t :: turns rest t.after

/-- The link manager at the end of a run. -/
def run : List (Step ρ σ) → Link ρ σ → Link ρ σ
  | [], l => l
  | s :: rest, l => run rest (s.op.perform (l.meet s)).2

end Run

end Telemetry.Link
