import Telemetry.Proofs.Broker.Kept
import Telemetry.Proofs.Store.Owner

/-!
# The broker manager on a store with a worn key

An endpoint is set as a whole or not at all, but it is not forgotten so. Memory and store agree as long as the
endpoint cannot be removed in part.
-/

namespace Telemetry.Broker

open Storage

variable {β σ : Type} [Storage σ] {worn : Option String} {good : σ → Prop}

/-- What becomes of an endpoint that is set: it is adopted, or the store holds what it held. -/
inductive Sets (worn : Option String) (good : σ → Prop) (host : String) (port : UInt16)
    (username password : Option String) (b : Broker β σ) : Except Failure Unit × Broker β σ → Prop
  | adopted {store : σ} {e : Endpoint} (made : Endpoint.make host port username password = .ok e)
    (spared : ∀ k ∈ Store.endpointKeys, worn ≠ some k)
    (good' : good store) (wrote : ∀ k, lookup k store = written (writes (some e)) k (lookup k b.store)) :
    Sets worn good host port username password b (.ok (), { b with store, endpoint := some e })
  | refused (store : σ) (e : Failure)
    (cause : (∀ e, Endpoint.make host port username password ≠ .ok e) ∨
      ∃ k ∈ Store.endpointKeys, worn = some k)
    (good' : good store) (same : ∀ k, lookup k store = lookup k b.store) :
    Sets worn good host port username password b (.error e, { b with store })

theorem sets_setEndpoint (fails : FailsAt worn good) (host : String) (port : UInt16)
    (username password : Option String) {b : Broker β σ} (hg : good b.store) :
    Sets worn good host port username password b (b.setEndpoint host port username password) := by
  unfold setEndpoint
  cases made : Endpoint.make host port username password with
  | error e => exact .refused b.store _ (.inl (by simp [made])) hg fun _ => rfl
  | ok e =>
    dsimp only
    obtain ⟨spared, wrote⟩ | ⟨hit, undone⟩ :=
      fails.putAll_cases hg (writes (some e)) rfl
    · split
      · next failed => cases wrote.done.symm.trans failed
      · exact .adopted made spared wrote.good wrote.lookup
    · obtain ⟨e, failed⟩ := undone.failed
      split
      · exact .refused _ _ (.inr hit) undone.good undone.lookup
      · next done => cases failed.symm.trans done

variable {b : Broker β σ}

/-! ## The broker manager as an owner -/

def owner (b : Broker β σ) : Owner σ Endpoint := ⟨b.endpoint, b.enabled, b.status, b.store⟩

theorem startsWith_shelf : (shelf (σ := σ)).StartsWith Store.brokerHost where
  names := ⟨_, rfl⟩
  nodup := (by decide : Store.endpointKeys.Nodup)
  needed s missing := by
    change stored? s = none
    simp [stored?, string?, missing]

theorem steps_setEndpoint (fails : FailsAt worn good) (hg : good b.store) (host : String) (port : UInt16)
    (username password : Option String) :
    b.owner.Steps shelf Store.brokerHost worn good (b.setEndpoint host port username password).2.owner := by
  have sets := sets_setEndpoint fails host port username password hg
  generalize b.setEndpoint host port username password = r at sets
  cases sets with
  | @adopted store e made spared good' wrote =>
    refine Owner.steps_adopt good' wrote rfl ?_
    have made' : Wrote good (writes (some e)) b.store (.ok (), store) := ⟨rfl, good', wrote⟩
    exact stored?_of_wrote made' (by rintro d ⟨⟩; exact Endpoint.make_self made)
  | refused store e cause good' same =>
    exact .of_agreeOn good' rfl (fun k _ => same k) fun k _ => same k

variable [Client β]

theorem turnsOff_ensureOff (fails : FailsAt worn good) (hg : good b.store) :
    b.owner.TurnsOff shelf good b.ensureOff.owner := by
  cases on : b.enabled with
  | false =>
    have same : b.ensureOff = b := if_neg (by simp [on])
    rw [same]
    exact .refl on hg
  | true =>
    have same : b.ensureOff = b.disable := if_pos on
    have off := disables_disable b
    rw [same]
    exact Owner.turnsOff_put fails hg on (some (.bool false)) off.same.endpoint off.same.enabled off.status
      off.store

theorem forgets_clearEndpoint (b : Broker β σ) :
    b.ensureOff.owner.Forgets shelf b.clearEndpoint.1 b.clearEndpoint.2.owner := by
  unfold clearEndpoint
  dsimp only
  split
  · next failed => exact .stuck failed
  · next done => exact .forgotten done

theorem clears_clearEndpoint (fails : FailsAt worn good) (hg : good b.store) :
    b.owner.Clears shelf Store.brokerHost worn good b.clearEndpoint.1 b.clearEndpoint.2.owner :=
  (turnsOff_ensureOff fails hg).clears (forgets_clearEndpoint b) fails startsWith_shelf

theorem steps_enable (fails : FailsAt worn good) (hg : good b.store) (linkUp : Bool) :
    b.owner.Steps shelf Store.brokerHost worn good (b.enable linkUp).owner := by
  cases enables_enable linkUp b with
  | busy _ same =>
    rw [same]
    exact .refl hg
  | refuses _ _ same store _ => exact .of_store hg same.endpoint store
  | starts _ _ same store _ => exact Owner.steps_put fails hg (some (.bool true)) same.endpoint store

theorem steps_perform (fails : FailsAt worn good) (hg : good b.store) (op : Op) :
    b.owner.Steps shelf Store.brokerHost worn good (op.perform b).2.owner := by
  cases op with
  | init linkUp =>
    show b.owner.Steps _ _ _ _ (b.init linkUp).owner
    unfold init
    split
    · exact steps_enable fails hg linkUp
    · exact .refl hg
  | enable linkUp => exact steps_enable fails hg linkUp
  | disable =>
    have off := disables_disable b
    exact Owner.steps_put fails hg (some (.bool false)) off.same.endpoint off.store
  | tick linkUp => exact .of_store hg (same_tick linkUp b).endpoint (keeps_tick linkUp b : Keeps 0 _ _).store
  | publish id topic payload =>
    exact .of_store hg (outward_publish id topic payload b).same.endpoint (outward_publish id topic payload b).store
  | publishRecord record =>
    exact .of_store hg (outward_publishRecord record b).same.endpoint (outward_publishRecord record b).store
  | setEndpoint host port username password =>
    exact steps_setEndpoint fails hg host port username password
  | clearEndpoint => exact (clears_clearEndpoint fails hg).steps
  | testConnection =>
    exact .of_store hg (outward_testConnection b).same.endpoint (outward_testConnection b).store

end Telemetry.Broker
