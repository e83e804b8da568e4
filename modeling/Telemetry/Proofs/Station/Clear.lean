import Telemetry.Bench.Equipment
import Telemetry.Proofs.Broker.Worn
import Telemetry.Proofs.Link.Worn
import Telemetry.Proofs.Station.Sound

/-!
# Forgetting a set-up

On a store with a worn key a manager forgets its set-up if none of the keys is worn. Else it keeps the set-up in
memory, and a restart finds it in the store unless keys before the worn one have been removed. That can only
happen to a set-up whose worn key is not the first: whatever a station goes through, the memory and the store of
each of its managers agree while there is no such set-up.
-/

namespace Telemetry

open Storage

variable {ρ β σ : Type} [Storage σ] {worn : Option String} {good : σ → Prop}

namespace Station

/-- A sound station on a good store that holds what its managers have, unless it may have been removed in part. -/
structure Agreed (worn : Option String) (good : σ → Prop) (s : Station ρ β σ) : Prop where
  good : good s.store
  link : s.link.owner.IsSafe Link.shelf Store.linkIdentity worn → s.link.owner.Agrees Link.shelf
  broker : s.broker.owner.IsSafe Broker.shelf Store.brokerHost worn → s.broker.owner.Agrees Broker.shelf
  sound : Sound s

variable [Radio ρ] [Client β] {s s' : Station ρ β σ}

/-- The managers have no keys in common. -/
theorem brokerNames_apart : ∀ k ∈ (Broker.shelf (σ := σ)).names, k ∉ (Link.shelf (σ := σ)).keys :=
  (by decide : ∀ k ∈ Store.endpointKeys, k ∉ Store.linkKeys)

theorem linkNames_apart : ∀ k ∈ (Link.shelf (σ := σ)).names, k ∉ (Broker.shelf (σ := σ)).keys :=
  (by decide : ∀ k ∈ Store.credentialKeys, k ∉ Store.brokerKeys)

theorem Agreed.operated (fails : FailsAt worn good) (h : Agreed worn good s) (operated : Operated s s') :
    Agreed worn good s' := by
  have sound := h.sound.operated operated
  induction operated with
  | refl => exact h
  | link before op ih =>
    have agreed := ih (h.sound.operated before)
    have steps := Link.steps_perform fails agreed.sound.link agreed.good op
    exact ⟨steps.good, steps.agrees agreed.link, fun safe => (agreed.broker safe).congr rfl
      fun k hk => steps.spares k (brokerNames_apart k hk), sound⟩
  | @broker mid before op ih =>
    have agreed := ih (h.sound.operated before)
    have steps := Broker.steps_perform (b := mid.broker) fails agreed.good op
    exact ⟨steps.good, fun safe => (agreed.link safe).congr rfl
      fun k hk => steps.spares k (linkNames_apart k hk), steps.agrees agreed.broker, sound⟩
  | surround before radio client journal ih =>
    obtain ⟨good, link, broker, -⟩ := ih (h.sound.operated before)
    exact ⟨good, link, broker, sound⟩

/-- A station that is started takes up what the store holds. -/
theorem agreed_start (fails : FailsAt worn good) (board : Board σ) (hg : good board.store)
    (settings : Settings) (watched : Bool) (radio : ρ) (client : β) :
    Agreed worn good (start settings watched radio client board) := by
  let loadedLink := Link.load settings.link watched radio board
  let link := loadedLink.init
  let loadedBroker := Broker.load settings.broker settings.device.id watched client link.toBoard
  have linkSound := Link.sound_load settings.link watched radio board
  have linkSteps := Link.steps_perform (l := loadedLink) fails linkSound hg .init
  have brokerSteps := Broker.steps_perform (b := loadedBroker) fails linkSteps.good (.init link.isConnected)
  have sound := sound_start settings watched radio client board
  refine ⟨brokerSteps.good, fun safe => ?_, brokerSteps.agrees fun _ => rfl, sound⟩
  exact (linkSteps.agrees (fun _ => rfl) safe).congr rfl
    fun k hk => brokerSteps.spares k (linkNames_apart k hk)

end Station

/-- A manager that is to forget its set-up is off afterwards, and shows it if it was on. It has forgotten the set-up
and the store holds none of its keys if none of them is worn; else it still has it. Whatever a station has gone
through, a restart finds in the store what the manager has exactly if the set-up has been forgotten, or could not be
removed in part. -/
theorem clears_or_keeps [Radio ρ] [Client β] (fails : FailsAt worn good) :
    (∀ l : Link ρ σ, good l.store →
      l.owner.Clears Link.shelf Store.linkIdentity worn good l.clearCredentials.1 l.clearCredentials.2.owner) ∧
    (∀ b : Broker β σ, good b.store →
      b.owner.Clears Broker.shelf Store.brokerHost worn good b.clearEndpoint.1 b.clearEndpoint.2.owner) ∧
    ∀ (settings : Settings) (watched : Bool) (radio : ρ) (client : β) (board : Board σ) (s : Station ρ β σ),
      good board.store → Station.Operated (.start settings watched radio client board) s →
      (s.link.clearCredentials.2.owner.Agrees Link.shelf ↔
        s.link.clearCredentials.1 = .ok () ∨ s.link.owner.IsSafe Link.shelf Store.linkIdentity worn) ∧
      (s.broker.clearEndpoint.2.owner.Agrees Broker.shelf ↔
        s.broker.clearEndpoint.1 = .ok () ∨ s.broker.owner.IsSafe Broker.shelf Store.brokerHost worn) := by
  have links (l : Link ρ σ) (hg : good l.store) := Link.clears_clearCredentials (l := l) fails hg
  have brokers (b : Broker β σ) (hg : good b.store) := Broker.clears_clearEndpoint (b := b) fails hg
  refine ⟨links, brokers, ?_⟩
  intro settings watched radio client board s hg operated
  have agreed := (Station.agreed_start fails board hg settings watched radio client).operated fails operated
  exact ⟨(links s.link agreed.good).agrees_iff agreed.link, (brokers s.broker agreed.good).agrees_iff agreed.broker⟩

namespace Clear.Sample

/-- A manager that could not be turned on, on a store that does not fail. -/
def unset : Link Bench.Radio Store.Flash :=
  let board : Board Store.Flash := { now := 0, store := {} }
  .run [{ radio := {}, board, op := .enable }] (.load {} true {} board)

/-- Memory that holds credentials and in which the key of the secret is worn out. -/
def board : Board Store.Flash where
  now := 0
  store := {
    values := [(Store.linkIdentity, .string "home"), (Store.linkSecret, .string "secret01")]
    failing := [Store.linkSecret] }

def started : Station Bench.Radio Bench.Client Store.Flash := .start {} true {} {} board

/-- A manager that could not be turned on still shows the error when it has forgotten its set-up. And credentials
that are kept in memory are not found by a restart, as the identity has been removed. -/
theorem error_shown_identity_gone :
    (FailsAt none (Store.Flash.Worn none) ∧ Store.Flash.Worn none unset.store ∧
      unset.clearCredentials.1 = .ok () ∧ unset.clearCredentials.2.status = .error) ∧
    FailsAt (some Store.linkSecret) (Store.Flash.Worn (some Store.linkSecret)) ∧
      Store.Flash.Worn (some Store.linkSecret) board.store ∧ started.link.credentials.isSome = true ∧
      started.link.clearCredentials.1 ≠ .ok () ∧
      started.link.clearCredentials.2.credentials = started.link.credentials ∧
      Link.stored? started.link.clearCredentials.2.store ≠ started.link.clearCredentials.2.credentials := by
  have unworn : Store.Flash.Worn none unset.store := ⟨rfl, List.Pairwise.nil⟩
  have worn : Store.Flash.Worn (some Store.linkSecret) board.store :=
    ⟨rfl, List.pairwise_pair.2 (by decide +kernel)⟩
  have sure := Store.Flash.failsAt_worn none
  have fails := Store.Flash.failsAt_worn (some Store.linkSecret)
  have found : started.link.credentials.isSome = true := by decide +kernel
  obtain ⟨spared, -, -⟩ := clears_or_keeps (ρ := Bench.Radio) (β := Bench.Client) sure
  have clears := spared unset unworn
  have shown : unset.clearCredentials.2.status = .error := clears.status.trans (by decide +kernel)
  obtain ⟨links, -, stations⟩ := clears_or_keeps (ρ := Bench.Radio) (β := Bench.Client) fails
  have refuses := links started.link worn
  have stuck : started.link.clearCredentials.1 ≠ .ok () := by
    intro ok
    exact refuses.ok_iff.1 ok Store.linkSecret (List.mem_cons_of_mem _ List.mem_cons_self) rfl
  have exposed : ¬ started.link.owner.IsSafe Link.shelf Store.linkIdentity (some Store.linkSecret) := by
    rintro (empty | only)
    · rw [show started.link.credentials = none from empty] at found
      cases found
    · have same := only Store.linkSecret (List.mem_cons_of_mem _ List.mem_cons_self) rfl
      exact absurd same (by decide)
  obtain ⟨agrees, -⟩ := stations {} true {} {} board started worn .refl
  exact ⟨⟨sure, unworn, clears.ok_iff.2 fun _ _ => nofun, shown⟩, fails, worn, found, stuck, refuses.kept stuck,
    fun same => (agrees.1 same).elim stuck exposed⟩

end Clear.Sample

end Telemetry
