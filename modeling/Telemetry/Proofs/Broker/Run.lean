import Telemetry.Broker.Basic

/-!
# Runs of the broker manager

A run is a sequence of operations on one broker manager. Before each of them the surroundings may
have changed: the client has moved on, time has passed, and others have used the board. A turn is one
operation of a run together with the state that it found.
-/

namespace Telemetry.Broker

open Transport

variable {β σ : Type}

/-! ## Requests and endpoints -/

/-- A session is requested, and nothing is shown of it yet. -/
def request [Client β] (e : Endpoint) (b : Broker β σ) : Broker β σ :=
  let r := Client.connect (b.connectOptions e) b.client
  let b' := b.look
  let asked : Broker β σ :=
    { b' with
      client := r.2
      startedAt := b'.now
      backoff := if b.backoff.attempts = 0 then b.backoff.markStarted b'.now else b.backoff }
  asked.record (.openSession (b.connectOptions e) (accepted r.1))

/-- What is shown of a request. -/
def requestStatus [Client β] (e : Endpoint) (b : Broker β σ) : Status :=
  if accepted (Client.connect (b.connectOptions e) b.client).1 then .connecting else .disconnected

theorem openSession_eq [Client β] (e : Endpoint) (b : Broker β σ) :
    b.openSession e = (b.request e).become (b.requestStatus e) := rfl

/-- A request shows that the session is being set up, or that there is none. -/
theorem requestStatus_cases [Client β] (e : Endpoint) (b : Broker β σ) :
    b.requestStatus e = .connecting ∨ b.requestStatus e = .disconnected := by
  unfold requestStatus
  split
  · exact .inl rfl
  · exact .inr rfl

/-- A new endpoint is adopted, or only the store has changed. -/
theorem setEndpoint_cases [Storage σ] (host : String) (port : UInt16) (username password : Option String)
    (b : Broker β σ) :
    (∃ e store, b.setEndpoint host port username password = (.error e, { b with store })) ∨
    ∃ e store, Endpoint.make host port username password = .ok e ∧
      b.setEndpoint host port username password = (.ok (), { b with store, endpoint := some e }) := by
  unfold setEndpoint
  split
  · next e _ => exact .inl ⟨e.failure, b.store, rfl⟩
  · next e made =>
    dsimp only
    split
    · next e _ => exact .inl ⟨.storage e, _, rfl⟩
    · exact .inr ⟨e, _, made, rfl⟩

/-! ## Operations and runs -/

/-- The operations of the broker manager. -/
inductive Op
  | init (linkUp : Bool)
  | enable (linkUp : Bool)
  | disable
  | tick (linkUp : Bool)
  | publish (id : UInt32) (topic : String) (payload : List UInt8)
  | publishRecord (record : Record)
  | setEndpoint (host : String) (port : UInt16) (username password : Option String)
  | clearEndpoint
  | testConnection

/-- Carries out an operation. A call to publish answers with what became of its message. -/
def Op.perform [Client β] [Storage σ] (op : Op) (b : Broker β σ) : Option Delivery × Broker β σ :=
  match op with
  | init linkUp => (none, b.init linkUp)
  | enable linkUp => (none, b.enable linkUp)
  | disable => (none, b.disable)
  | tick linkUp => (none, b.tick linkUp)
  | publish id topic payload => let r := b.publish id topic payload; (some r.1, r.2)
  | publishRecord record => let r := b.publishRecord record; (some r.1, r.2)
  | setEndpoint host port username password =>
    (none, (b.setEndpoint host port username password).2)
  | clearEndpoint => (none, b.clearEndpoint.2)
  | testConnection => (none, b.testConnection.2)

/-- What an operation answers. -/
inductive Answer
  | done
  | outcome (outcome : Except Failure Unit)
  | delivery (delivery : Delivery)
  | tested (accepted : Bool)

/-- Carries out an operation, with all that it answers. -/
def Op.ask [Client β] [Storage σ] (op : Op) (b : Broker β σ) : Answer × Broker β σ :=
  match op with
  | publish id topic payload => let r := b.publish id topic payload; (.delivery r.1, r.2)
  | publishRecord record => let r := b.publishRecord record; (.delivery r.1, r.2)
  | setEndpoint host port username password =>
    let r := b.setEndpoint host port username password
    (.outcome r.1, r.2)
  | clearEndpoint => let r := b.clearEndpoint; (.outcome r.1, r.2)
  | testConnection => let r := b.testConnection; (.tested r.1, r.2)
  | op => (.done, (op.perform b).2)

theorem ask_eq_perform [Client β] [Storage σ] (op : Op) (b : Broker β σ) : (op.ask b).2 = (op.perform b).2 := by
  cases op <;> rfl

/-- An operation, and the surroundings in which it is carried out. -/
structure Step (β σ : Type) where
  client : β
  board : Board σ
  op : Op

/-- The broker manager as it finds itself in the surroundings of a step. -/
def meet (s : Step β σ) (b : Broker β σ) : Broker β σ :=
  { b with client := s.client, toBoard := s.board }

/-- An operation and the state that it finds. -/
structure Turn (β σ : Type) where
  op : Op
  before : Broker β σ

section Run

variable [Client β] [Storage σ]

def Turn.after (t : Turn β σ) : Broker β σ := (t.op.perform t.before).2

def Turn.answer (t : Turn β σ) : Option Delivery := (t.op.perform t.before).1

/-- What the operation did to the world. -/
def Turn.events (t : Turn β σ) : List Event := t.after.trace.drop t.before.trace.length

/-- The turns of a run. -/
def turns : List (Step β σ) → Broker β σ → List (Turn β σ)
  | [], _ => []
  | s :: rest, b =>
    let t : Turn β σ := { op := s.op, before := b.meet s }
    t :: turns rest t.after

/-- The broker manager at the end of a run. -/
def run : List (Step β σ) → Broker β σ → Broker β σ
  | [], b => b
  | s :: rest, b => run rest (s.op.perform (b.meet s)).2

end Run

end Telemetry.Broker
