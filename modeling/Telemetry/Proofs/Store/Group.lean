import Telemetry.Proofs.Store

/-!
# Groups of writes

A group of writes is made as a whole or not at all. When a write of it fails, the keys written before it get back what
was under them when the group began, absent keys included. This goes through at keys that do not fail, so the store
then holds what it held.
-/

namespace Telemetry

namespace Storage

open Store (Value)

variable {σ : Type} [Storage σ] {worn : String → Prop} {good : σ → Prop}
  {writes made before : List (String × Option Value)} {s start : σ}

/-! ## What is overwritten -/

/-- A key that is written holds what one of the writes to it says, and any other what it held. -/
theorem written_cases (writes : List (String × Option Value)) (k : String) (old : Option Value) :
    ((∀ w ∈ writes, w.1 ≠ k) ∧ written writes k old = old) ∨
      ∃ w ∈ writes, w.1 = k ∧ written writes k old = w.2 := by
  induction writes generalizing old with
  | nil => exact .inl ⟨nofun, rfl⟩
  | cons w writes ih =>
    obtain ⟨others, kept⟩ | ⟨v, hv, same, last⟩ := ih (if k = w.1 then w.2 else old)
    · by_cases hk : k = w.1
      · exact .inr ⟨w, List.mem_cons_self, hk.symm, kept.trans (if_pos hk)⟩
      · exact .inl ⟨List.forall_mem_cons.2 ⟨Ne.symm hk, others⟩, kept.trans (if_neg hk)⟩
    · exact .inr ⟨v, List.mem_cons_of_mem w hv, same, last⟩

theorem written_of_not_mem {k : String} (h : k ∉ writes.map (·.1)) (old : Option Value) :
    written writes k old = old := by
  obtain ⟨-, kept⟩ | ⟨w, hw, rfl, -⟩ := written_cases writes k old
  · exact kept
  · exact absurd (List.mem_map_of_mem hw) h

/-- The values that some writes overwrite. -/
def overwritten (start : σ) (made : List (String × Option Value)) : List (String × Option Value) :=
  made.map fun w => (w.1, lookup w.1 start)

/-- Writing back what was overwritten undoes the writes. -/
theorem written_overwritten (k : String) :
    written (overwritten start made) k (written made k (lookup k start)) = lookup k start := by
  obtain ⟨others, kept⟩ | ⟨w, hw, same, last⟩ :=
    written_cases (overwritten start made) k (written made k (lookup k start))
  · rw [kept]
    obtain ⟨-, kept⟩ | ⟨v, hv, same, -⟩ := written_cases made k (lookup k start)
    · exact kept
    · exact absurd same (others (v.1, lookup v.1 start) (List.mem_map.2 ⟨v, hv, rfl⟩))
  · obtain ⟨v, -, rfl⟩ := List.mem_map.1 hw
    rw [last, ← same]

/-! ## Where a group stops -/

/-- Writes that have been made do not matter for those that follow. -/
theorem putEach_append (done : (putEach made s).1 = .ok ()) (rest : List (String × Option Value)) :
    putEach (made ++ rest) s = putEach rest (putEach made s).2 := by
  induction made generalizing s with
  | nil => rfl
  | cons w made ih =>
    obtain ⟨key, value⟩ := w
    cases first : (put key value s).1 with
    | ok _ =>
      rw [putEach_of_ok first] at done
      rw [List.cons_append, putEach_of_ok first, putEach_of_ok first]
      exact ih done
    | error e =>
      rw [putEach_of_error first] at done
      cases done

/-- Writes of a group that have been made add to what is restored if a later one fails. -/
theorem putRest_append (done : (putEach made s).1 = .ok ()) (old : List (String × Option Value))
    (rest : List ((String × Option Value) × Option Value)) :
    putRest old ((made.map fun w => (w, lookup w.1 start)) ++ rest) s =
      putRest (old ++ overwritten start made) rest (putEach made s).2 := by
  induction made generalizing s old with
  | nil => simp [overwritten, putEach]
  | cons w made ih =>
    obtain ⟨key, value⟩ := w
    cases first : (put key value s).1 with
    | ok _ =>
      rw [putEach_of_ok first] at done
      rw [List.map_cons, List.cons_append, putRest_of_ok first, ih done, putEach_of_ok first]
      simp [overwritten]
    | error e =>
      rw [putEach_of_error first] at done
      cases done

/-- The first write that fails ends the group, which restores what the writes before it have overwritten. -/
theorem putAll_of_error {key : String} {value : Option Value} {e : Store.Error}
    (done : (putEach before s).1 = .ok ()) (failed : (put key value (putEach before s).2).1 = .error e)
    (after : List (String × Option Value)) :
    putAll (before ++ (key, value) :: after) s =
      (.error e, restore (overwritten s before) (put key value (putEach before s).2).2) := by
  simp only [putAll, value?_eq_lookup]
  rw [List.map_append, putRest_append done, List.nil_append, List.map_cons, putRest_of_error failed]

/-- Restoring spares the worn keys, so nothing fails. -/
theorem FailsOn.restore_spec (h : FailsOn worn good) (hs : good s) (writes : List (String × Option Value))
    (spared : ∀ w ∈ writes, ¬ worn w.1) :
    good (restore writes s) ∧ ∀ k, lookup k (restore writes s) = written writes k (lookup k s) := by
  induction writes generalizing s with
  | nil => exact ⟨hs, fun _ => rfl⟩
  | cons w writes ih =>
    obtain ⟨first, rest⟩ := List.forall_mem_cons.1 spared
    obtain ⟨-, good, lookup⟩ := h.write w.1 w.2 s first hs
    obtain ⟨good', lookup'⟩ := ih good rest
    refine ⟨good', fun k => (lookup' k).trans ?_⟩
    rw [lookup]
    rfl

/-- The outcome of a group in which a write failed: the store holds what it held. -/
structure Undone (good : σ → Prop) (s : σ) (r : Except Store.Error Unit × σ) : Prop where
  failed : ∃ e, r.1 = .error e
  good : good r.2
  lookup : ∀ k, lookup k r.2 = lookup k s

/-- A group whose first worn key comes after writes that are made. -/
theorem FailsOn.undone_putAll (h : FailsOn worn good) (hs : good s) (spared : ∀ w ∈ before, ¬ worn w.1)
    {key : String} (here : worn key) (value : Option Value) (after : List (String × Option Value)) :
    Undone good s (putAll (before ++ (key, value) :: after) s) ∧
      (putAll (before ++ (key, value) :: after) s).1 = (put key value (putEach before s).2).1 := by
  have first := h.wrote_putEach hs before spared
  obtain ⟨⟨e, failed⟩, good', lookup'⟩ := h.fail key value _ here first.good
  have sparedToo : ∀ w ∈ overwritten s before, ¬ worn w.1 := by
    intro w hw
    obtain ⟨v, hv, rfl⟩ := List.mem_map.1 hw
    exact spared v hv
  obtain ⟨good'', restored⟩ := h.restore_spec good' (overwritten s before) sparedToo
  rw [putAll_of_error first.done failed]
  refine ⟨⟨⟨e, rfl⟩, good'', fun k => ?_⟩, failed.symm⟩
  rw [restored, lookup', first.lookup, written_overwritten]

/-- Some key of a group is worn, or none is. -/
theorem exists_first_worn (worn : String → Prop) (writes : List (String × Option Value)) :
    (∀ w ∈ writes, ¬ worn w.1) ∨
      ∃ before key value after, writes = before ++ (key, value) :: after ∧ (∀ w ∈ before, ¬ worn w.1) ∧ worn key := by
  induction writes with
  | nil => exact .inl nofun
  | cons w writes ih =>
    by_cases here : worn w.1
    · exact .inr ⟨[], w.1, w.2, writes, rfl, nofun, here⟩
    · obtain none | ⟨before, key, value, after, rfl, spared, later⟩ := ih
      · exact .inl (List.forall_mem_cons.2 ⟨here, none⟩)
      · exact .inr ⟨w :: before, key, value, after, rfl, List.forall_mem_cons.2 ⟨here, spared⟩, later⟩

end Storage

namespace Store.Flash

/-- Memory in good order of which these keys are worn out. -/
structure Failing (keys : List String) (f : Flash) : Prop where
  failing : f.failing = keys
  sorted : Dict.IsSorted f.values

theorem failsOn_failing (keys : List String) : Storage.FailsOn (· ∈ keys) (Failing keys) := by
  constructor
  · rintro key value f spared ⟨rfl, sorted⟩
    rw [put_of_notMem spared]
    exact ⟨rfl, ⟨rfl, sorted.put key value⟩, fun k => Dict.find?_put sorted key k value⟩
  · rintro key value f worn ⟨rfl, sorted⟩
    rw [put_of_mem worn]
    exact ⟨⟨_, rfl⟩, ⟨rfl, sorted⟩, fun _ => rfl⟩

end Store.Flash

namespace Storage

open Store (Value)

variable {σ : Type} [Storage σ] {worn : String → Prop} {good : σ → Prop} {s : σ}

/-- Whatever the store holds and whichever keys are worn: if a group spares them, its writes are made in order. If
not, the first write to a worn key fails the group, which answers with the error of that write and leaves under every
key what was there before. -/
theorem putAll_atomic (fails : FailsOn worn good) (hs : good s) (writes : List (String × Option Value)) :
    ((∀ w ∈ writes, ¬ worn w.1) ∧ putAll writes s = putEach writes s ∧ (putAll writes s).1 = .ok () ∧
      ∀ k, lookup k (putAll writes s).2 = written writes k (lookup k s)) ∨
    ∃ before key value after e, writes = before ++ (key, value) :: after ∧ (∀ w ∈ before, ¬ worn w.1) ∧ worn key ∧
      (put key value (putEach before s).2).1 = .error e ∧ (putAll writes s).1 = .error e ∧
      ∀ k, lookup k (putAll writes s).2 = lookup k s := by
  obtain spared | ⟨before, key, value, after, rfl, spared, here⟩ := exists_first_worn worn writes
  · have wrote := fails.wrote_putAll hs writes spared
    exact .inl ⟨spared, fails.putAll_eq hs writes spared, wrote.done, wrote.lookup⟩
  · obtain ⟨undone, same⟩ := fails.undone_putAll hs spared here value after
    obtain ⟨e, failed⟩ := undone.failed
    exact .inr ⟨before, key, value, after, e, rfl, spared, here, same.symm.trans failed, failed, undone.lookup⟩

namespace Group.Sample

/-- Two keys of this memory are worn out. -/
def tired : Store.Flash := {
  values := [(Store.brokerEnabled, .bool true), (Store.brokerHost, .string "broker.local")]
  failing := [Store.brokerUsername, Store.brokerPort] }

/-- A value of another type, a key that is absent, a key written twice, and a removal. -/
def spared : List (String × Option Value) := [
  (Store.brokerEnabled, some (.integer 1)), (Store.linkIdentity, some (.string "home")),
  (Store.brokerHost, some (.string "10.0.0.2")), (Store.brokerHost, none)]

/-- The first worn key comes after the others. -/
def stopped : List (String × Option Value) :=
  spared ++ [(Store.brokerPort, some (.integer 1883)), (Store.brokerUsername, none)]

/-- One group is made and the other is undone. -/
theorem spared_stopped :
    FailsOn (· ∈ tired.failing) (Store.Flash.Failing tired.failing) ∧ Store.Flash.Failing tired.failing tired ∧
      (∀ w ∈ spared, w.1 ∉ tired.failing) ∧ (putAll spared tired).1 = .ok () ∧
      (∀ k, lookup k (putAll spared tired).2 = written spared k (lookup k tired)) ∧
      ¬ (∀ w ∈ stopped, w.1 ∉ tired.failing) ∧ (putAll stopped tired).1 ≠ .ok () ∧
      ∀ k, lookup k (putAll stopped tired).2 = lookup k tired := by
  have fails := Store.Flash.failsOn_failing tired.failing
  have worn : Store.Flash.Failing tired.failing tired := ⟨rfl, List.pairwise_pair.2 (by decide +kernel)⟩
  have spares : ∀ w ∈ spared, w.1 ∉ tired.failing := by decide +kernel
  have stops : ¬ ∀ w ∈ stopped, w.1 ∉ tired.failing := by decide +kernel
  have made : (putAll spared tired).1 = .ok () ∧
      ∀ k, lookup k (putAll spared tired).2 = written spared k (lookup k tired) := by
    obtain ⟨-, -, made⟩ | ⟨before, key, _, _, _, split, -, here, -⟩ := putAll_atomic fails worn spared
    · exact made
    · exact absurd here (spares _ (split ▸ List.mem_append_right before List.mem_cons_self))
  have undone : (putAll stopped tired).1 ≠ .ok () ∧
      ∀ k, lookup k (putAll stopped tired).2 = lookup k tired := by
    obtain ⟨spares, -⟩ | ⟨_, _, _, _, _, -, -, -, -, failed, same⟩ := putAll_atomic fails worn stopped
    · exact absurd spares stops
    · exact ⟨by rw [failed]; nofun, same⟩
  exact ⟨fails, worn, spares, made.1, made.2, stops, undone⟩

end Group.Sample

end Storage

end Telemetry
