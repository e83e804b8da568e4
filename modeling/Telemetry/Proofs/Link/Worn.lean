import Telemetry.Proofs.Link.Kept
import Telemetry.Proofs.Store.Owner

/-!
# The link manager on a store with a worn key

Credentials are set as a whole or not at all, but they are not forgotten so. Memory and store agree as long as the
credentials cannot be removed in part.
-/

namespace Telemetry.Link

open Storage

variable {ρ σ : Type} [Storage σ] {worn : Option String} {good : σ → Prop}

/-- What becomes of credentials that are set: they are adopted, or the store holds what it held. -/
inductive Sets (worn : Option String) (good : σ → Prop) (identity secret : String) (l : Link ρ σ) :
    Except Failure Unit × Link ρ σ → Prop
  | adopted {store : σ} (made : Credentials.make identity secret = .ok ⟨identity, secret⟩)
    (spared : ∀ k ∈ Store.credentialKeys, worn ≠ some k)
    (good' : good store)
    (wrote : ∀ k, lookup k store = written (writes (some ⟨identity, secret⟩)) k (lookup k l.store)) :
    Sets worn good identity secret l
      (.ok (), { l with store, credentials := some ⟨identity, secret⟩, backoff := l.backoff.reset })
  | refused (store : σ) (e : Failure)
    (cause : (∀ c, Credentials.make identity secret ≠ .ok c) ∨ ∃ k ∈ Store.credentialKeys, worn = some k)
    (good' : good store) (same : ∀ k, lookup k store = lookup k l.store) :
    Sets worn good identity secret l (.error e, { l with store })

theorem sets_setCredentials (fails : FailsAt worn good) (identity secret : String) {l : Link ρ σ}
    (hg : good l.store) : Sets worn good identity secret l (l.setCredentials identity secret) := by
  unfold setCredentials
  cases made : Credentials.make identity secret with
  | error e => exact .refused l.store _ (.inl (by simp [made])) hg fun _ => rfl
  | ok c =>
    obtain ⟨-, -, rfl⟩ := Credentials.eq_of_make made
    dsimp only
    obtain ⟨spared, wrote⟩ | ⟨hit, undone⟩ :=
      fails.putAll_cases hg (writes (some ⟨identity, secret⟩)) rfl
    · split
      · next failed => cases wrote.done.symm.trans failed
      · exact .adopted made spared wrote.good wrote.lookup
    · obtain ⟨e, failed⟩ := undone.failed
      split
      · exact .refused _ _ (.inr hit) undone.good undone.lookup
      · next done => cases failed.symm.trans done

variable {l l' : Link ρ σ}

/-! ## The link manager as an owner -/

def owner (l : Link ρ σ) : Owner σ Credentials := ⟨l.credentials, l.enabled, l.status, l.store⟩

theorem startsWith_shelf : (shelf (σ := σ)).StartsWith Store.linkIdentity where
  names := ⟨_, rfl⟩
  nodup := (by decide : Store.credentialKeys.Nodup)
  needed s missing := by
    change stored? s = none
    simp [stored?, string?, missing]

/-- What leaves the store, the credentials and the intent alone. -/
theorem steps_of_moves {starts : List Bool} {b : Backoff} (moves : Moves l starts b l') (hg : good l.store) :
    l.owner.Steps shelf Store.linkIdentity worn good l'.owner :=
  .of_store hg moves.credentials moves.store

theorem steps_setCredentials (fails : FailsAt worn good) (hg : good l.store) (identity secret : String) :
    l.owner.Steps shelf Store.linkIdentity worn good (l.setCredentials identity secret).2.owner := by
  have sets := sets_setCredentials fails identity secret hg
  generalize l.setCredentials identity secret = r at sets
  cases sets with
  | @adopted store made spared good' wrote =>
    refine Owner.steps_adopt good' wrote rfl ?_
    have made' : Wrote good (writes (some ⟨identity, secret⟩)) l.store (.ok (), store) := ⟨rfl, good', wrote⟩
    exact stored?_of_wrote made' (by rintro d ⟨⟩; exact made)
  | refused store e cause good' same =>
    exact .of_agreeOn good' rfl (fun k _ => same k) fun k _ => same k

variable [Radio ρ]

theorem turnsOff_ensureOff (fails : FailsAt worn good) (hg : good l.store) :
    l.owner.TurnsOff shelf good l.ensureOff.owner := by
  cases on : l.enabled with
  | false =>
    have same : l.ensureOff = l := if_neg (by simp [on])
    rw [same]
    exact .refl on hg
  | true =>
    have same : l.ensureOff = l.disable := if_pos on
    have moves := moves_disable l
    rw [same]
    exact Owner.turnsOff_put fails hg on (some (.bool false)) moves.credentials moves.enabled
      (status_disable l) moves.store

theorem forgets_clearCredentials (l : Link ρ σ) :
    l.ensureOff.owner.Forgets shelf l.clearCredentials.1 l.clearCredentials.2.owner := by
  unfold clearCredentials
  dsimp only
  split
  · next failed => exact .stuck failed
  · next done => exact .forgotten done

theorem clears_clearCredentials (fails : FailsAt worn good) (hg : good l.store) :
    l.owner.Clears shelf Store.linkIdentity worn good l.clearCredentials.1 l.clearCredentials.2.owner :=
  (turnsOff_ensureOff fails hg).clears (forgets_clearCredentials l) fails startsWith_shelf

theorem steps_enable (fails : FailsAt worn good) (hg : good l.store) :
    l.owner.Steps shelf Store.linkIdentity worn good l.enable.owner := by
  cases enables_enable l with
  | busy _ same =>
    rw [same]
    exact .refl hg
  | refuses _ _ moves _ => exact steps_of_moves moves hg
  | starts _ _ _ moves _ => exact Owner.steps_put fails hg (some (.bool true)) moves.credentials moves.store

theorem steps_perform (fails : FailsAt worn good) (sound : Sound l) (hg : good l.store) (op : Op) :
    l.owner.Steps shelf Store.linkIdentity worn good (op.perform l).2.owner := by
  cases op with
  | init =>
    show l.owner.Steps _ _ _ _ l.init.owner
    unfold init
    split
    · exact steps_enable fails hg
    · exact .refl hg
  | enable => exact steps_enable fails hg
  | disable =>
    have moves := moves_disable l
    exact Owner.steps_put fails hg (some (.bool false)) moves.credentials moves.store
  | tick =>
    cases on : l.enabled with
    | false =>
      show l.owner.Steps _ _ _ _ l.tick.owner
      rw [tick_of_off on]
      exact .refl hg
    | true =>
      obtain ⟨starts, b, moves⟩ := (sound.ticks on).exists_moves
      exact steps_of_moves (l := l.look) moves hg
  | setCredentials identity secret => exact steps_setCredentials fails hg identity secret
  | clearCredentials => exact (clears_clearCredentials fails hg).steps

end Telemetry.Link
