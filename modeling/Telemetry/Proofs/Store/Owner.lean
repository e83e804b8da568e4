import Telemetry.Failure
import Telemetry.Proofs.Store.Worn
import Telemetry.Status

/-!
# The owner of a shelf

A manager that is to forget its set-up turns itself off if it is on, removes the keys one by one, and forgets the
set-up when all of them are gone. If one cannot be removed, the set-up stays in memory, and those before it are
gone from the store. Memory and store then still agree only if the first key is the one that stayed, or if there was
nothing to forget.
-/

namespace Telemetry

open Storage

/-- A manager, as far as its shelf is concerned. -/
structure Owner (σ α : Type) where
  setUp : Option α
  enabled : Bool
  status : Status
  store : σ

namespace Owner

variable {σ α : Type} [Storage σ] {worn : Option String} {good : σ → Prop} {p : Shelf σ α} {first : String}
  {o o' off : Owner σ α}

/-- The set-up cannot be removed in part: there is none, or no key but the first is worn. -/
def IsSafe (p : Shelf σ α) (first : String) (worn : Option String) (o : Owner σ α) : Prop :=
  o.setUp = none ∨ ∀ k ∈ p.names, worn = some k → k = first

/-- A restart would find in the store what the owner has. -/
def Agrees (p : Shelf σ α) (o : Owner σ α) : Prop := p.read o.store = o.setUp

theorem Agrees.congr (h : o.Agrees p) (setUp : o'.setUp = o.setUp) (own : AgreeOn p.names o.store o'.store) :
    o'.Agrees p :=
  (p.read_congr own).trans (h.trans setUp.symm)

/-! ## Forgetting a set-up -/

/-- The owner is off, and its set-up is as it was. -/
structure TurnsOff (p : Shelf σ α) (good : σ → Prop) (o off : Owner σ α) : Prop where
  setUp : off.setUp = o.setUp
  enabled : off.enabled = false
  status : off.status = if o.enabled then .disabled else o.status
  good : good off.store
  spares : ∀ k ≠ p.intent, lookup k off.store = lookup k o.store

/-- An owner that is off already keeps the status that it shows. -/
theorem TurnsOff.refl (enabled : o.enabled = false) (hg : good o.store) : TurnsOff p good o o where
  setUp := rfl
  enabled := enabled
  status := by simp [enabled]
  good := hg
  spares _ _ := rfl

/-- An owner that is on writes down that it no longer is, if it can. -/
theorem turnsOff_put (fails : FailsAt worn good) (hg : good o.store) (on : o.enabled = true) (v : Option Store.Value)
    (setUp : off.setUp = o.setUp) (enabled : off.enabled = false) (status : off.status = .disabled)
    (store : off.store = (put p.intent v o.store).2) : TurnsOff p good o off := by
  obtain ⟨good', spares⟩ := fails.spares_put hg p.intent v
  rw [← store] at good' spares
  exact ⟨setUp, enabled, by simp [on, status], good', spares⟩

/-- The keys are removed one by one, and when all of them are gone the set-up is forgotten. -/
inductive Forgets (p : Shelf σ α) (off : Owner σ α) : Except Failure Unit → Owner σ α → Prop
  | forgotten (done : (putEach (removals p.names) off.store).1 = .ok ()) :
      Forgets p off (.ok ()) { off with store := (putEach (removals p.names) off.store).2, setUp := none }
  | stuck {e : Store.Error} (failed : (putEach (removals p.names) off.store).1 = .error e) :
      Forgets p off (.error (.storage e)) { off with store := (putEach (removals p.names) off.store).2 }

/-- What becomes of a set-up that is to be forgotten; `first` is the key that is removed first. -/
structure Clears (p : Shelf σ α) (first : String) (worn : Option String) (good : σ → Prop) (o : Owner σ α)
    (answer : Except Failure Unit) (o' : Owner σ α) : Prop where
  ok_iff : answer = .ok () ↔ ∀ k ∈ p.names, worn ≠ some k
  enabled : o'.enabled = false
  status : o'.status = if o.enabled then .disabled else o.status
  gone : answer = .ok () → o'.setUp = none ∧ ∀ k ∈ p.names, lookup k o'.store = none
  kept : answer ≠ .ok () → o'.setUp = o.setUp
  agrees_iff : (o.IsSafe p first worn → o.Agrees p) →
    (o'.Agrees p ↔ answer = .ok () ∨ o.IsSafe p first worn)
  good : good o'.store
  spares : ∀ k ∉ p.keys, lookup k o'.store = lookup k o.store

theorem names_removals (keys : List String) : (removals keys).map (·.1) = keys := by
  simp [removals, Function.comp_def]

theorem TurnsOff.clears {answer : Except Failure Unit} (h : TurnsOff p good o off)
    (forgets : Forgets p off answer o') (fails : FailsAt worn good) (starts : p.StartsWith first) :
    Clears p first worn good o answer o' := by
  obtain ⟨good', others⟩ := fails.spares_putEach h.good (removals p.names)
  rw [names_removals] at others
  have spares : ∀ k ∉ p.keys, lookup k (putEach (removals p.names) off.store).2 = lookup k o.store := by
    intro k hk
    exact (others k (List.not_mem_of_not_mem_cons hk)).trans (h.spares k (List.ne_of_not_mem_cons hk))
  by_cases hit : ∃ k ∈ p.names, worn = some k
  · obtain ⟨k, hk, here⟩ := hit
    obtain ⟨⟨e, failed⟩, read⟩ := fails.clear_stuck h.good starts hk here
    cases forgets with
    | forgotten done => cases done.symm.trans failed
    | stuck _ =>
      refine {
        ok_iff := ⟨nofun, fun spared => absurd here (spared k hk)⟩
        enabled := h.enabled
        status := h.status
        gone := nofun
        kept := fun _ => h.setUp
        agrees_iff := fun held => ⟨fun agrees => .inr ?_, fun cleared => ?_⟩
        good := good'
        spares := spares }
      · replace agrees : _ = off.setUp := read.symm.trans agrees
        by_cases atFirst : worn = some first
        · exact .inr fun k _ same => Option.some.inj (same.symm.trans atFirst)
        · rw [if_neg atFirst] at agrees
          exact .inl (h.setUp.symm.trans agrees.symm)
      · have safe := cleared.resolve_left nofun
        have before : off.Agrees p := (held safe).congr h.setUp fun k hk => h.spares k fun same =>
          p.intent_not_mem (same ▸ hk)
        refine read.trans ?_
        split
        · exact before
        · next notFirst =>
          obtain empty | only := safe
          · exact (h.setUp.trans empty).symm
          · exact absurd (only k hk here ▸ here) notFirst
  · have spared : ∀ k ∈ p.names, worn ≠ some k := fun k hk here => hit ⟨k, hk, here⟩
    obtain ⟨done, removed⟩ := fails.clear_done h.good spared
    cases forgets with
    | forgotten _ =>
      exact {
        ok_iff := ⟨fun _ => spared, fun _ => rfl⟩
        enabled := h.enabled
        status := h.status
        gone := fun _ => ⟨rfl, removed⟩
        kept := fun refused => absurd rfl refused
        agrees_iff := fun _ => iff_of_true (starts.needed _ (removed first starts.first_mem)) (.inl rfl)
        good := good'
        spares := spares }
    | stuck failed => cases done.symm.trans failed

/-! ## Steps of an owner -/

/-- What no operation of an owner breaks. Other keys than its own are left alone. -/
structure Steps (p : Shelf σ α) (first : String) (worn : Option String) (good : σ → Prop) (o o' : Owner σ α) :
    Prop where
  good : good o'.store
  spares : ∀ k ∉ p.keys, lookup k o'.store = lookup k o.store
  agrees : (o.IsSafe p first worn → o.Agrees p) → o'.IsSafe p first worn → o'.Agrees p

/-- The set-up stays, in memory and in the store. -/
theorem Steps.of_agreeOn (hg : good o'.store) (setUp : o'.setUp = o.setUp)
    (own : AgreeOn p.names o.store o'.store) (spares : ∀ k ∉ p.keys, lookup k o'.store = lookup k o.store) :
    Steps p first worn good o o' where
  good := hg
  spares := spares
  agrees agrees safe := by
    unfold IsSafe at safe
    rw [setUp] at safe
    exact (agrees safe).congr setUp own

theorem Steps.of_store (hg : good o.store) (setUp : o'.setUp = o.setUp) (store : o'.store = o.store) :
    Steps p first worn good o o' := by
  have same : ∀ k, lookup k o'.store = lookup k o.store := by
    intro k
    rw [store]
  exact .of_agreeOn (store ▸ hg) setUp (fun k _ => same k) fun k _ => same k

theorem Steps.refl (hg : good o.store) : Steps p first worn good o o := .of_store hg rfl rfl

/-- The intent is written down, if it can be. -/
theorem steps_put (fails : FailsAt worn good) (hg : good o.store) (v : Option Store.Value)
    (setUp : o'.setUp = o.setUp) (store : o'.store = (put p.intent v o.store).2) :
    Steps p first worn good o o' := by
  obtain ⟨good', spares⟩ := fails.spares_put hg p.intent v
  rw [← store] at good' spares
  refine .of_agreeOn good' setUp (fun k hk => spares k ?_) fun k hk => spares k (List.ne_of_not_mem_cons hk)
  rintro rfl
  exact p.intent_not_mem hk

/-- A new set-up is adopted, in memory and in the store. -/
theorem steps_adopt {writes : List (String × Option Store.Value)} (hg : good o'.store)
    (wrote : ∀ k, lookup k o'.store = written writes k (lookup k o.store)) (own : writes.map (·.1) = p.names)
    (agrees : o'.Agrees p) : Steps p first worn good o o' where
  good := hg
  spares k hk := (wrote k).trans (written_of_not_mem (own ▸ List.not_mem_of_not_mem_cons hk) _)
  agrees _ _ := agrees

theorem Clears.steps {answer : Except Failure Unit} (h : Clears p first worn good o answer o') :
    Steps p first worn good o o' where
  good := h.good
  spares := h.spares
  agrees agrees safe := by
    by_cases done : answer = .ok ()
    · exact (h.agrees_iff agrees).2 (.inl done)
    · unfold IsSafe at safe
      rw [h.kept done] at safe
      exact (h.agrees_iff agrees).2 (.inr safe)

end Owner

end Telemetry
