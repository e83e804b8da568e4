import Telemetry.Bench.Equipment
import Telemetry.Proofs.Broker.Off

/-!
# Off until turned on

Turning a manager off is possible in every state and lasts until it is turned on or restored from the store.
-/

namespace Telemetry

variable {ρ β σ : Type} [Radio ρ] [Client β] [Storage σ]

/-- Whatever state a manager is in: turned off it is not enabled, shows `disabled` and has disconnected its hardware,
and the broker manager has emptied its outbox and reported each entry as dropped. On all turns of a run from there
without `enable` and `init` it stays as it is, neither its hardware is asked for anything nor its watcher told a
status, and whatever is to be published is dropped. -/
theorem off_until_started :
    (∀ l : Link ρ σ,
      l.disable.IsOff ∧ l.disable.radio = Radio.disconnect true l.radio ∧
      (∃ es, l.disable.trace = l.trace ++ .dissociate true :: es) ∧
      ∀ steps : List (Link.Step ρ σ), (∀ s ∈ steps, s.op.isStarter = false) →
        ∀ t ∈ Link.turns steps l.disable, t.after.IsOff ∧ ∀ e ∈ t.events, e.isIdle = true) ∧
    (∀ b : Broker β σ,
      b.disable.IsOff ∧ b.disable.client = Client.disconnect b.client ∧
      (∃ es, b.disable.trace = b.trace ++ .closeSession :: es ∧
        Event.reports es = if b.reporting then b.outbox.entries.map fun e => (e.id, .dropped) else []) ∧
      ∀ steps : List (Broker.Step β σ), (∀ s ∈ steps, s.op.isStarter = false) →
        ∀ t ∈ Broker.turns steps b.disable, t.after.IsOff ∧ (∀ e ∈ t.events, e.isIdle = true) ∧
          ∀ d, t.answer = some d → d = .dropped) := by
  constructor
  · intro l
    refine ⟨l.isOff_disable, l.radio_disable, l.told_disable, fun steps without t ht => ?_⟩
    have stays := Link.staysOff_turns l.isOff_disable without t ht
    exact ⟨stays.toIsOff, stays.events⟩
  · intro b
    refine ⟨b.isOff_disable, b.client_disable, b.told_disable, fun steps without t ht => ?_⟩
    obtain ⟨stays, dropped⟩ := Broker.staysOff_turns b.isOff_disable without t ht
    exact ⟨stays.toIsOff, stays.events, dropped⟩

namespace Off.Sample

def board : Board Store.Flash where
  now := 0
  store := { values := [ (Store.brokerHost, .string "broker.local"), (Store.brokerPort, .integer 1883),
    (Store.linkIdentity, .string "home"), (Store.linkSecret, .string "secret01") ] }

/-- A link that has been turned on and is being set up. -/
def link : Link Bench.Radio Store.Flash := (Link.load {} true {} board).enable

/-- A broker manager that waits for the link, with two messages in its outbox. -/
def broker : Broker Bench.Client Store.Flash :=
  (((Broker.load {} "unit" true {} board).enable false |>.publish 1 "items/1" [1]).2.publish 2 "items/2" [2]).2

/-- The radio stands by, hours pass, and no key can be written. -/
def linkSteps : List (Link.Step Bench.Radio Store.Flash) :=
  [.tick, .setCredentials "other" "secret02", .clearCredentials, .disable, .tick].map fun op =>
    { radio := { connected := true }, board := { now := 9000000, store := { failing := [Store.linkIdentity] } }, op }

def brokerSteps : List (Broker.Step Bench.Client Store.Flash) :=
  [.tick true, .publish 3 "items/3" [3], .testConnection, .clearEndpoint, .disable, .tick true].map fun op =>
    { client := { connected := true }, board := { board with now := 9000000 }, op }

theorem link_broker_off :
    (link.enabled = true ∧ link.status = .connecting) ∧ broker.pending = 2 ∧
      (∀ s ∈ linkSteps, s.op.isStarter = false) ∧ (∀ s ∈ brokerSteps, s.op.isStarter = false) ∧
      (∀ t ∈ Link.turns linkSteps link.disable, t.after.IsOff ∧ ∀ e ∈ t.events, e.isIdle = true) ∧
      (∃ es, broker.disable.trace = broker.trace ++ .closeSession :: es ∧
        Event.reports es = [(1, .dropped), (2, .dropped)]) ∧
      ∀ t ∈ Broker.turns brokerSteps broker.disable, t.after.IsOff ∧ (∀ e ∈ t.events, e.isIdle = true) ∧
        ∀ d, t.answer = some d → d = .dropped := by
  obtain ⟨links, brokers⟩ :=
    off_until_started (ρ := Bench.Radio) (β := Bench.Client) (σ := Store.Flash)
  obtain ⟨-, -, -, linkRuns⟩ := links link
  obtain ⟨-, -, told, brokerRuns⟩ := brokers broker
  have linkStays : ∀ s ∈ linkSteps, s.op.isStarter = false := by simp [linkSteps, Link.Op.isStarter]
  have brokerStays : ∀ s ∈ brokerSteps, s.op.isStarter = false := by simp [brokerSteps, Broker.Op.isStarter]
  exact ⟨by decide +kernel, by decide +kernel, linkStays, brokerStays, linkRuns linkSteps linkStays, told,
    brokerRuns brokerSteps brokerStays⟩

end Off.Sample

end Telemetry
