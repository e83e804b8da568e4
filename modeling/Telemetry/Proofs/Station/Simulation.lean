import Telemetry.Proofs.Broker.Simulation
import Telemetry.Proofs.Link.Simulation
import Telemetry.Proofs.Station.Run

/-!
# Simulations of a station

A station acts alike with managers that do. The managers share a board, so a simulation of one of them has to bear
what the other one does to it.
-/

namespace Telemetry.Station

variable {ρ β σ : Type}

variable [Radio ρ] [Client β] [Storage σ]

/-- Relations between the managers and the boards of two stations under which the stations act alike. -/
structure Simulation (L : Link ρ σ → Link ρ σ → Prop) (K : Broker β σ → Broker β σ → Prop)
    (B : Board σ → Board σ → Prop) : Prop where
  link : Link.Simulation L
  broker : Broker.Simulation.Ticks K
  linkBoard : ∀ {l l'}, L l l' → B l.toBoard l'.toBoard
  brokerBoard : ∀ {b b'}, K b b' → B b.toBoard b'.toBoard
  /-- What others do to the board does not matter, if it is alike. -/
  linkOn : ∀ {l l' board board'}, L l l' → B board board' →
    L { l with toBoard := board } { l' with toBoard := board' }
  brokerOn : ∀ {b b' board board'}, K b b' → B board board' →
    K { b with toBoard := board } { b' with toBoard := board' }
  linkReport : ∀ {l l'}, L l l' → Provisioning.linkReport l' = Provisioning.linkReport l
  brokerReport : ∀ {b b'}, K b b' → Provisioning.brokerReport b' = Provisioning.brokerReport b

/-- Both managers are related. -/
structure Matched (L : Link ρ σ → Link ρ σ → Prop) (K : Broker β σ → Broker β σ → Prop)
    (s s' : Station ρ β σ) : Prop where
  link : L s.link s'.link
  broker : K s.broker s'.broker

namespace Simulation

variable {L : Link ρ σ → Link ρ σ → Prop} {K : Broker β σ → Broker β σ → Prop} {B : Board σ → Board σ → Prop}
  {s s' : Station ρ β σ}

/-! ## Asking a manager -/

theorem withLink (sim : Simulation L K B) {l l' : Link ρ σ} (h : Matched L K s s') (related : L l l') :
    Matched L K (s.withLink l) (s'.withLink l') :=
  ⟨related, sim.brokerOn h.broker (sim.linkBoard related)⟩

theorem withBroker (sim : Simulation L K B) {b b' : Broker β σ} (h : Matched L K s s') (related : K b b') :
    Matched L K (s.withBroker b) (s'.withBroker b') :=
  ⟨sim.linkOn h.link (sim.brokerBoard related), related⟩

theorem askLink {α : Type} (sim : Simulation L K B) {f f' : Link ρ σ → α × Link ρ σ} (h : Matched L K s s')
    (alike : Alike L (f s.link) (f' s'.link)) : Alike (Matched L K) (s.askLink f) (s'.askLink f') :=
  ⟨alike.answer, sim.withLink h alike.state⟩

theorem askBroker {α : Type} (sim : Simulation L K B) {f f' : Broker β σ → α × Broker β σ}
    (h : Matched L K s s') (alike : Alike K (f s.broker) (f' s'.broker)) :
    Alike (Matched L K) (s.askBroker f) (s'.askBroker f') :=
  ⟨alike.answer, sim.withBroker h alike.state⟩

/-! ## Operations -/

theorem isConnected_eq (sim : Simulation L K B) (h : Matched L K s s') :
    s'.link.isConnected = s.link.isConnected := by
  unfold Link.isConnected
  rw [(sim.link.looks h.link).status]

theorem tick (sim : Simulation L K B) (h : Matched L K s s') : Matched L K s.tick s'.tick := by
  have served := sim.withLink h (sim.link.tick h.link)
  have up := sim.isConnected_eq served
  have ticked := sim.broker.tick (s.withLink s.link.tick).link.isConnected served.broker
  unfold Station.tick onLink onBroker
  dsimp only
  rw [up]
  exact sim.withBroker served ticked

theorem apply (sim : Simulation L K B) (c : Provisioning.Control) (h : Matched L K s s') :
    Alike (Matched L K) (Provisioning.apply c s) (Provisioning.apply c s') := by
  cases c with
  | enableLink => exact ⟨rfl, sim.withLink h (sim.link.enable h.link)⟩
  | disableLink => exact ⟨rfl, sim.withLink h (sim.link.disable h.link)⟩
  | enableBroker =>
    have enabled := sim.broker.enable s.link.isConnected h.broker
    refine ⟨rfl, ?_⟩
    unfold Provisioning.apply onBroker
    dsimp only
    rw [sim.isConnected_eq h]
    exact sim.withBroker h enabled
  | disableBroker => exact ⟨rfl, sim.withBroker h (sim.broker.disable h.broker)⟩
  | testConnection => exact (sim.askBroker h (sim.broker.testConnection h.broker)).map Provisioning.Outcome.tested
  | getStatus =>
    refine ⟨?_, h⟩
    unfold Provisioning.apply Provisioning.report
    rw [sim.linkReport h.link, sim.brokerReport h.broker]

/-- Every operation answers alike in both stations and keeps their managers related. -/
theorem ask (sim : Simulation L K B) (op : Op) (h : Matched L K s s') :
    Alike (Matched L K) (op.ask s) (op.ask s') := by
  cases op with
  | link op => exact (sim.askLink h (sim.link.perform op h.link)).map Answer.outcome
  | broker op => exact (sim.askBroker h (sim.broker.ask op h.broker)).map Answer.broker
  | tick => exact ⟨rfl, sim.tick h⟩
  | publish record => exact (sim.askBroker h (sim.broker.publishRecord record h.broker)).map Answer.delivery
  | writeCredentials raw =>
    refine Alike.map ?_ Answer.outcome
    unfold Provisioning.writeCredentials
    split
    · exact ⟨rfl, h⟩
    · exact sim.askLink h (sim.link.setCredentials h.link _ _)
  | writeEndpoint raw =>
    refine Alike.map ?_ Answer.outcome
    unfold Provisioning.writeEndpoint
    split
    · exact ⟨rfl, h⟩
    · exact sim.askBroker h (sim.broker.setEndpoint h.broker _ _ _ _)
  | control raw =>
    refine Alike.map ?_ Answer.control
    unfold Provisioning.control
    split
    · exact ⟨rfl, h⟩
    · next c _ => exact (sim.apply c h).map Except.ok

/-- Stations are alike from their start if their managers are loaded alike. -/
theorem start (sim : Simulation L K B) (settings : Settings) (watched : Bool) {r r' : ρ} {c c' : β}
    {board board' : Board σ}
    (link : L (Link.load settings.link watched r board) (Link.load settings.link watched r' board'))
    (broker : ∀ {board board'}, B board board' →
      K (Broker.load settings.broker settings.device.id watched c board)
        (Broker.load settings.broker settings.device.id watched c' board')) :
    Matched L K (Station.start settings watched r c board) (Station.start settings watched r' c' board') := by
  have served := sim.link.init link
  have up : (Link.load settings.link watched r' board').init.isConnected =
      (Link.load settings.link watched r board).init.isConnected :=
    congrArg Status.isConnected (sim.link.looks served).status
  have begun := sim.broker.init (Link.load settings.link watched r board).init.isConnected
    (broker (sim.linkBoard served))
  unfold Station.start
  dsimp only
  rw [up]
  exact ⟨sim.linkOn served (sim.brokerBoard begun), begun⟩

end Simulation

end Telemetry.Station
