import Telemetry.Bench.Equipment
import Telemetry.Proofs.Relay.Reports
import Telemetry.Proofs.Station.Restart

/-!
# Restarting a companion's station

Whatever a companion does, it comes down to operations of the managers of its station, with one exception: a
reset also erases the store. It does so after both managers have been cleared, so the store still holds what
they have.
-/

namespace Telemetry.Relay.Companion

open Storage Station

variable {ω ρ β σ : Type}

/-- What was asked of the station has changed nothing else. -/
theorem toStation_eq_of_askStation {α : Type} {f : Station ρ β σ → α × Station ρ β σ} {answer : α}
    {c c' : Companion ω ρ β σ} (h : c.askStation f = (answer, c')) :
    c'.toStation = (f c.toStation).2 := by
  cases h
  rfl

/-- What can happen to a companion and its station. -/
inductive Act (ω ρ β : Type)
  | tick
  | console (line : String)
  /-- An operation of the station, past the companion. -/
  | station (op : Station.Op)
  /-- The wire and the hardware have moved on, and time has passed. -/
  | surround (wire : ω) (radio : ρ) (client : β) (journal : Journal)

variable [Radio ρ] [Client β] [Storage σ] {c : Companion ω ρ β σ}

section Wire

variable [Wire ω]

def perform (c : Companion ω ρ β σ) (act : Act ω ρ β) : Companion ω ρ β σ :=
  match act with
  | .tick => c.tick
  | .console line => (c.console line).2
  | .station op => c.onStation op.perform
  | .surround wire radio client journal => { c.onStation (Station.surround radio client journal) with wire }

def run (acts : List (Act ω ρ β)) (c : Companion ω ρ β σ) : Companion ω ρ β σ := acts.foldl perform c

/-! ## What the companion asks of its station -/

theorem operated_report (c : Companion ω ρ β σ) : Operated c.toStation c.report.toStation := by
  have written : ∀ line (d : Companion ω ρ β σ), Operated d.toStation (d.write line).toStation := by
    intro line d
    exact Operated.refl.surround d.linkState.radio d.brokerState.client
      { toClock := d.toClock, trace := (d.write line).trace }
  unfold report
  dsimp only
  split
  · exact written _ _
  · exact .refl

theorem operated_handle (line : String) (c : Companion ω ρ β σ) :
    Operated c.toStation (c.handle line).toStation := by
  unfold handle
  split
  · next data _ =>
    exact Operated.refl.broker
      (.publish (itemId data) (c.broker.topics.item (itemId data)) (Text.utf8 data.render))
  · exact operated_report c
  · exact .refl

theorem operated_handleAll (lines : List String) (c : Companion ω ρ β σ) :
    Operated c.toStation (LineEnd.handleAll lines c).toStation := by
  induction lines generalizing c with
  | nil => exact .refl
  | cons line lines ih => exact (operated_handle line c).trans (ih _)

theorem operated_pump (budget : Nat) (c : Companion ω ρ β σ) :
    Operated c.toStation (LineEnd.pump budget c).toStation := by
  refine LineEnd.pump_induction (P := fun d : Companion ω ρ β σ => Operated c.toStation d.toStation) ?_
    budget .refl
  intro d h
  rw [LineEnd.take_eq]
  exact h.trans (operated_handleAll _ (LineEnd.readChunk d).2)

theorem operated_tick (c : Companion ω ρ β σ) : Operated c.toStation c.tick.toStation := by
  let served := (LineEnd.pump pumpBudget c).onStation Station.tick
  have before : Operated c.toStation served.toStation :=
    (operated_pump pumpBudget c).trans (Station.operated_tick _)
  unfold tick
  dsimp only
  split
  · exact before
  · exact before.trans (operated_report served)

end Wire

theorem operated_setNetwork (ssid pass : String) (c : Companion ω ρ β σ) :
    Operated c.toStation (c.setNetwork ssid pass).2.toStation := by
  have asked := Operated.refl (s := c.toStation).link (.setCredentials ssid pass)
  unfold setNetwork
  split
  · next h =>
    rw [toStation_eq_of_askStation h]
    exact asked
  · next h =>
    show Operated c.toStation ((toStation _).onLink fun l => l.disable.enable)
    rw [toStation_eq_of_askStation h]
    exact (asked.link .disable).link .enable

theorem operated_setBroker (host : String) (port : UInt16) (user pass : Option String)
    (c : Companion ω ρ β σ) : Operated c.toStation (c.setBroker host port user pass).2.toStation := by
  have asked := Operated.refl (s := c.toStation).broker (.setEndpoint host port user pass)
  unfold setBroker
  dsimp only
  split
  · next h =>
    rw [toStation_eq_of_askStation h]
    exact asked
  · next h =>
    show Operated c.toStation ((toStation _).onBroker fun b => b.disable.enable c.link.isConnected)
    rw [toStation_eq_of_askStation h]
    exact (asked.broker .disable).broker (.enable c.link.isConnected)

/-- A reset clears the managers before it erases the store. -/
theorem kept_reset {good : σ → Prop} (reliable : Reliable good) (h : Kept good c.toStation) :
    Kept good c.reset.2.toStation := by
  let unset := (c.toStation.askBroker Broker.clearEndpoint).2
  let cleared := (unset.askLink Link.clearCredentials).2
  have operated : Operated c.toStation cleared := (Operated.refl.broker .clearEndpoint).link .clearCredentials
  have unsetKept : Kept good unset := h.operated reliable (Operated.refl.broker .clearEndpoint)
  obtain ⟨good', link, broker, sound⟩ := h.operated reliable operated
  obtain ⟨-, endpoint, brokerOff⟩ := Broker.lasting_clearEndpoint reliable h.good h.broker
  obtain ⟨-, credentials, linkOff⟩ := Link.lasting_clearCredentials reliable unsetKept.good unsetKept.link
  obtain ⟨-, erased, empty⟩ := reliable.erase cleared.store good'
  have linkSound : c.reset.2.link.Sound := ⟨sound.link.on, sound.link.off, sound.link.valid⟩
  have brokerSound : c.reset.2.broker.Sound :=
    ⟨sound.broker.on, sound.broker.off, sound.broker.valid, sound.broker.fits⟩
  exact ⟨erased, Link.kept_of_empty empty credentials linkOff,
    Broker.kept_of_empty empty endpoint brokerOff, ⟨linkSound, brokerSound⟩⟩

theorem kept_console {good : σ → Prop} (reliable : Reliable good) (line : String)
    (h : Kept good c.toStation) : Kept good (c.console line).2.toStation := by
  unfold console
  split
  · exact h
  · exact h
  · exact h
  · exact h
  · exact kept_reset reliable h
  · exact h.operated reliable (operated_setNetwork _ _ c)
  · exact h.operated reliable (operated_setBroker _ _ _ _ c)

section Wire

variable [Wire ω]

theorem kept_perform {good : σ → Prop} (reliable : Reliable good) (act : Act ω ρ β)
    (h : Kept good c.toStation) : Kept good (c.perform act).toStation := by
  cases act with
  | tick => exact h.operated reliable (operated_tick c)
  | console line => exact kept_console reliable line h
  | station op => exact h.operated reliable (operated_perform op c.toStation)
  | surround wire radio client journal =>
    exact h.operated reliable (Operated.refl.surround radio client journal)

theorem kept_run {good : σ → Prop} (reliable : Reliable good) (acts : List (Act ω ρ β))
    (h : Kept good c.toStation) : Kept good (run acts c).toStation := by
  induction acts generalizing c with
  | nil => exact h
  | cons act acts ih => exact ih (kept_perform reliable act h)

/-- A station that is started on the store of a companion is set up like the companion's own, at any moment
since that one was started on an empty store. -/
theorem restart_run {good : σ → Prop} (reliable : Reliable good) (board : Board σ)
    (fresh : good board.store) (empty : ∀ k, lookup k board.store = none) (settings settings' : Settings)
    (watched watched' : Bool) (radio radio' : ρ) (client client' : β) (wire : ω)
    (acts : List (Act ω ρ β)) (journal : Journal) :
    let c := run acts (.start settings wire (Station.start settings watched radio client board))
    SameSetUp c.toStation (Station.start settings' watched' radio' client' { journal with store := c.store }) := by
  intro c
  obtain ⟨started, -⟩ := kept_start reliable board fresh (setUp_of_empty empty) settings watched radio client
  have kept : Kept good c.toStation := kept_run reliable acts started
  exact kept.restart reliable settings' watched' radio' client' journal

end Wire

namespace Sample

def board : Board Store.Flash := { now := 0, store := {} }

/-- Both are set up over the console, and the broker is turned off by a control write. -/
def acts : List (Act Bench.Wire Bench.Radio Bench.Client) :=
  [ .console "wifi ssid=home pass=secret01", .console "mqtt broker=broker.local port=1884 user=unit pass=pw",
    .surround {} { connected := true } {} { now := 500 }, .tick, .station (.control [4]), .tick ]

def device : Companion Bench.Wire Bench.Radio Bench.Client Store.Flash :=
  run acts (.start {} {} (Station.start {} false {} {} board))

def restarted : Station Bench.Radio Bench.Client Store.Flash :=
  .start {} false {} {} { now := 0, store := device.store }

theorem restarted_sameSetUp :
    SameSetUp device.toStation restarted ∧ restarted.link.credentials = some ⟨"home", "secret01"⟩ ∧
      restarted.broker.endpoint = some ⟨"broker.local", 1884, some "unit", some "pw"⟩ ∧
      restarted.link.enabled = true ∧ restarted.broker.enabled = false := by
  have same := restart_run (ω := Bench.Wire) (ρ := Bench.Radio) (β := Bench.Client)
    Store.Flash.reliable_intact board Store.Flash.intact_empty (fun _ => rfl) {} {} false false {} {} {} {} {} acts
    { now := 0 }
  exact ⟨same, by decide +kernel, by decide +kernel, by decide +kernel, by decide +kernel⟩

end Sample

end Telemetry.Relay.Companion
