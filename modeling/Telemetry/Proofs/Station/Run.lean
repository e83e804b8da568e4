import Telemetry.Proofs.Broker.Run
import Telemetry.Proofs.Link.Run
import Telemetry.Provisioning.Service

/-!
# Runs of a station

Whatever is asked of a station, it comes down to operations of its managers. `Operated s s'` says that
nothing but such operations lies between `s` and `s'`, and changes of the surroundings between them. So
what every operation of the managers keeps, the station keeps.
-/

namespace Telemetry.Station

variable {ρ β σ : Type}

/-- The operations of a station. Those of its managers may also be called past it. -/
inductive Op
  | link (op : Link.Op)
  | broker (op : Broker.Op)
  | tick
  | publish (record : Record)
  | writeCredentials (raw : List UInt8)
  | writeEndpoint (raw : List UInt8)
  | control (raw : List UInt8)

/-- The station in other surroundings: the hardware has moved on, time has passed, and others have done
something. The store is its own. -/
def surround (radio : ρ) (client : β) (journal : Journal) (s : Station ρ β σ) : Station ρ β σ :=
  { toJournal := journal
    store := s.store
    linkState := { s.linkState with radio }
    brokerState := { s.brokerState with client } }

/-- What an operation answers. -/
inductive Answer
  | done
  | outcome (outcome : Except Failure Unit)
  | delivery (delivery : Delivery)
  | broker (answer : Broker.Answer)
  | control (outcome : Except Failure Provisioning.Outcome)

variable [Radio ρ] [Client β] [Storage σ]

def Op.perform (op : Op) (s : Station ρ β σ) : Station ρ β σ :=
  match op with
  | link op => (s.askLink op.perform).2
  | broker op => (s.askBroker op.perform).2
  | tick => s.tick
  | publish record => (s.publish record).2
  | writeCredentials raw => (Provisioning.writeCredentials raw s).2
  | writeEndpoint raw => (Provisioning.writeEndpoint raw s).2
  | control raw => (Provisioning.control raw s).2

/-- Carries out an operation, with all that it answers. -/
def Op.ask (op : Op) (s : Station ρ β σ) : Answer × Station ρ β σ :=
  match op with
  | link op => let r := s.askLink op.perform; (.outcome r.1, r.2)
  | broker op => let r := s.askBroker op.ask; (.broker r.1, r.2)
  | tick => (.done, s.tick)
  | publish record => let r := s.publish record; (.delivery r.1, r.2)
  | writeCredentials raw => let r := Provisioning.writeCredentials raw s; (.outcome r.1, r.2)
  | writeEndpoint raw => let r := Provisioning.writeEndpoint raw s; (.outcome r.1, r.2)
  | control raw => let r := Provisioning.control raw s; (.control r.1, r.2)

theorem ask_eq_perform (op : Op) (s : Station ρ β σ) : (op.ask s).2 = op.perform s := by
  cases op with
  | broker op => exact congrArg s.withBroker (Broker.ask_eq_perform op s.broker)
  | link _ | tick | publish _ | writeCredentials _ | writeEndpoint _ | control _ => rfl

inductive Operated (s : Station ρ β σ) : Station ρ β σ → Prop
  | refl : Operated s s
  | link {s' : Station ρ β σ} (before : Operated s s') (op : Link.Op) :
    Operated s (s'.askLink op.perform).2
  | broker {s' : Station ρ β σ} (before : Operated s s') (op : Broker.Op) :
    Operated s (s'.askBroker op.perform).2
  | surround {s' : Station ρ β σ} (before : Operated s s') (radio : ρ) (client : β) (journal : Journal) :
    Operated s (s'.surround radio client journal)

variable {s s' s'' : Station ρ β σ}

theorem Operated.trans (h : Operated s s') (h' : Operated s' s'') : Operated s s'' := by
  induction h' with
  | refl => exact h
  | link _ op ih => exact ih.link op
  | broker _ op ih => exact ih.broker op
  | surround _ radio client journal ih => exact ih.surround radio client journal

theorem operated_tick (s : Station ρ β σ) : Operated s s.tick :=
  have served := Operated.refl.link Link.Op.tick
  served.broker (.tick (s.onLink Link.tick).link.isConnected)

theorem operated_apply (c : Provisioning.Control) (s : Station ρ β σ) :
    Operated s (Provisioning.apply c s).2 := by
  cases c with
  | enableLink => exact Operated.refl.link .enable
  | disableLink => exact Operated.refl.link .disable
  | enableBroker => exact Operated.refl.broker (.enable s.link.isConnected)
  | disableBroker => exact Operated.refl.broker .disable
  | testConnection => exact Operated.refl.broker .testConnection
  | getStatus => exact .refl

theorem operated_perform (op : Op) (s : Station ρ β σ) : Operated s (op.perform s) := by
  cases op with
  | link op => exact Operated.refl.link op
  | broker op => exact Operated.refl.broker op
  | tick => exact operated_tick s
  | publish record => exact Operated.refl.broker (.publishRecord record)
  | writeCredentials raw =>
    unfold Op.perform Provisioning.writeCredentials
    dsimp only
    split
    · exact .refl
    · next w _ => exact Operated.refl.link (.setCredentials w.identity w.secret)
  | writeEndpoint raw =>
    unfold Op.perform Provisioning.writeEndpoint
    dsimp only
    split
    · exact .refl
    · next w _ => exact Operated.refl.broker (.setEndpoint w.host w.port w.username w.password)
  | control raw =>
    unfold Op.perform Provisioning.control
    dsimp only
    split
    · exact .refl
    · next c _ => exact operated_apply c s

end Telemetry.Station
