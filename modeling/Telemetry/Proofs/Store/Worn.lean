import Telemetry.Proofs.Store.Group

/-!
# Stores with a worn key

A group of writes is made, or undone if the worn key is one of its own. Writes that are not made as a group stop where
one fails.
-/

namespace Telemetry

namespace Storage

open Store (Value)

variable {σ : Type} [Storage σ] {worn : Option String} {good : σ → Prop}
  {writes made : List (String × Option Value)} {s : σ}

/-- A group of writes either spares the worn key and is made, or is undone. -/
theorem FailsAt.putAll_cases (h : FailsAt worn good) (hs : good s)
    (writes : List (String × Option Value)) {keys : List String} (own : writes.map (·.1) = keys) :
    ((∀ k ∈ keys, worn ≠ some k) ∧ Wrote good writes s (putAll writes s)) ∨
      ((∃ k ∈ keys, worn = some k) ∧ Undone good s (putAll writes s)) := by
  subst own
  obtain spared | ⟨before, key, value, after, rfl, spared, here⟩ := exists_first_worn (worn = some ·) writes
  · refine .inl ⟨fun k hk => ?_, h.failsOn.wrote_putAll hs writes spared⟩
    obtain ⟨w, hw, rfl⟩ := List.mem_map.1 hk
    exact spared w hw
  · exact .inr ⟨⟨key, by simp, here⟩, (h.failsOn.undone_putAll hs spared here value after).1⟩

/-- Writes that are not a group: those before the worn key stay made. -/
theorem FailsAt.putEach_fails (h : FailsAt worn good) (hs : good s) {key : String} (here : worn = some key)
    (value : Option Value) (spared : ∀ w ∈ made, worn ≠ some w.1) (after : List (String × Option Value)) :
    (∃ e, (putEach (made ++ (key, value) :: after) s).1 = .error e) ∧
      good (putEach (made ++ (key, value) :: after) s).2 ∧
      ∀ k, lookup k (putEach (made ++ (key, value) :: after) s).2 = written made k (lookup k s) := by
  have before := h.failsOn.wrote_putEach hs made spared
  obtain ⟨⟨e, failed⟩, good', lookup'⟩ := h.fail key value _ here before.good
  have stopped : putEach (made ++ (key, value) :: after) s =
      (.error e, (put key value (putEach made s).2).2) := by
    rw [putEach_append before.done, putEach_of_error failed]
  rw [stopped]
  exact ⟨⟨e, rfl⟩, good', fun k => (lookup' k).trans (before.lookup k)⟩

/-- A write leaves the other keys alone, whether it fails or not. -/
theorem FailsAt.spares_put (h : FailsAt worn good) (hs : good s) (key : String) (value : Option Value) :
    good (put key value s).2 ∧ ∀ k, k ≠ key → lookup k (put key value s).2 = lookup k s := by
  by_cases here : worn = some key
  · obtain ⟨-, good', lookup'⟩ := h.fail key value s here hs
    exact ⟨good', fun k _ => lookup' k⟩
  · obtain ⟨-, good', lookup'⟩ := h.write key value s here hs
    exact ⟨good', fun k other => (lookup' k).trans (if_neg other)⟩

theorem FailsAt.spares_putEach (h : FailsAt worn good) (hs : good s) (writes : List (String × Option Value)) :
    good (putEach writes s).2 ∧
      ∀ k ∉ writes.map (·.1), lookup k (putEach writes s).2 = lookup k s := by
  induction writes generalizing s with
  | nil => exact ⟨hs, fun _ _ => rfl⟩
  | cons w writes ih =>
    obtain ⟨key, value⟩ := w
    obtain ⟨good', spared⟩ := h.spares_put hs key value
    cases first : (put key value s).1 with
    | ok _ =>
      obtain ⟨good'', rest⟩ := ih good'
      rw [putEach_of_ok first]
      refine ⟨good'', fun k hk => ?_⟩
      exact (rest k (List.not_mem_of_not_mem_cons hk)).trans (spared k (List.ne_of_not_mem_cons hk))
    | error e =>
      rw [putEach_of_error first]
      exact ⟨good', fun k hk => spared k (List.ne_of_not_mem_cons hk)⟩

/-! ## Shelves on a store with a worn key -/

/-- The writes that remove some keys. -/
def removals (keys : List String) : List (String × Option Value) := keys.map fun k => (k, none)

theorem written_removals {keys : List String} {k : String} (hk : k ∈ keys) (old : Option Value) :
    written (removals keys) k old = none := by
  obtain ⟨others, -⟩ | ⟨w, hw, -, last⟩ := written_cases (removals keys) k old
  · exact absurd rfl (others (k, none) (List.mem_map.2 ⟨k, hk, rfl⟩))
  · obtain ⟨v, -, rfl⟩ := List.mem_map.1 hw
    exact last

/-- The first key of a shelf is enough to find it empty. -/
structure Shelf.StartsWith {α : Type} (p : Shelf σ α) (first : String) : Prop where
  names : ∃ rest, p.names = first :: rest
  nodup : p.names.Nodup
  needed : ∀ s, lookup first s = none → p.read s = none

theorem Shelf.StartsWith.first_mem {α : Type} {p : Shelf σ α} {first : String} (h : p.StartsWith first) :
    first ∈ p.names := by
  obtain ⟨rest, names⟩ := h.names
  exact names ▸ List.mem_cons_self

/-- A shelf that is cleared key by key up to the worn one holds what it held if that is the first one, and nothing
else. -/
theorem FailsAt.clear_stuck {α : Type} {p : Shelf σ α} {first key : String} (h : FailsAt worn good) (hs : good s)
    (starts : p.StartsWith first) (hk : key ∈ p.names) (here : worn = some key) :
    (∃ e, (putEach (removals p.names) s).1 = .error e) ∧
      p.read (putEach (removals p.names) s).2 = if worn = some first then p.read s else none := by
  obtain ⟨before, after, split⟩ := List.append_of_mem hk
  have spared : ∀ w ∈ removals before, worn ≠ some w.1 := by
    intro w hw same
    obtain ⟨k, hb, rfl⟩ := List.mem_map.1 hw
    cases here.symm.trans same
    exact (List.nodup_append.1 (split ▸ starts.nodup)).2.2 k hb k List.mem_cons_self rfl
  have writes : removals p.names = removals before ++ (key, none) :: removals after := by
    simp [removals, split]
  obtain ⟨failed, -, lookup'⟩ := h.putEach_fails hs here none spared (removals after)
  obtain ⟨rest, names⟩ := starts.names
  rw [writes]
  refine ⟨failed, ?_⟩
  cases before with
  | nil =>
    obtain ⟨rfl, -⟩ := List.cons.inj (split.symm.trans names)
    rw [if_pos here]
    exact p.read_congr fun k _ => lookup' k
  | cons k before =>
    obtain ⟨rfl, -⟩ := List.cons.inj (split.symm.trans names)
    rw [if_neg (spared (k, none) List.mem_cons_self)]
    exact starts.needed _ ((lookup' k).trans (written_removals List.mem_cons_self _))

theorem FailsAt.clear_done {keys : List String} (h : FailsAt worn good) (hs : good s)
    (spared : ∀ k ∈ keys, worn ≠ some k) :
    (putEach (removals keys) s).1 = .ok () ∧ ∀ k ∈ keys, lookup k (putEach (removals keys) s).2 = none := by
  have wrote := h.failsOn.wrote_putEach hs (removals keys) fun w hw => by
    obtain ⟨k, hk, rfl⟩ := List.mem_map.1 hw
    exact spared k hk
  exact ⟨wrote.done, fun k hk => (wrote.lookup k).trans (written_removals hk _)⟩

end Storage

namespace Store.Flash

/-- Memory of which at most this key is worn out. -/
structure Worn (key : Option String) (f : Flash) : Prop where
  failing : f.failing = key.toList
  sorted : Dict.IsSorted f.values

theorem failsAt_worn (key : Option String) : Storage.FailsAt key (Worn key) := by
  constructor
  · intro k value f spared h
    rw [put_of_notMem (by simpa [h.failing] using spared)]
    exact ⟨rfl, ⟨h.failing, h.sorted.put k value⟩, fun k' => Dict.find?_put h.sorted k k' value⟩
  · intro k value f here h
    rw [put_of_mem (by simp [h.failing, here])]
    exact ⟨⟨_, rfl⟩, h, fun _ => rfl⟩

end Store.Flash

end Telemetry
