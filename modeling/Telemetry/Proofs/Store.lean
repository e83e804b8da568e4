import Telemetry.Proofs.Dict
import Telemetry.Store.Flash

/-!
# Stores whose writes do not fail

A store is reliable in some of its states if a write there succeeds, is read back at once, leaves the other
keys alone and leads to such a state again. A group of writes then leaves what `written` says. It does so
too in a store that fails at some keys, if the group spares those keys.

A manager has a shelf in the store for its intent and its set-up. `Shelf.Keeps` says that a store holds what
the manager has and that the shelf of the other manager is as it was.
-/

namespace Telemetry

namespace Storage

open Store (Value)

variable {σ : Type} [Storage σ]

/-- Writes do not fail in the states that are good, and lead to good states. -/
structure Reliable (good : σ → Prop) : Prop where
  write : ∀ key value s, good s → (put key value s).1 = .ok () ∧ good (put key value s).2 ∧
    ∀ k, lookup k (put key value s).2 = if k = key then value else lookup k s
  erase : ∀ s, good s → (clear s).1 = .ok () ∧ good (clear s).2 ∧ ∀ k, lookup k (clear s).2 = none

/-- What is found under a key after some writes; the last one to the key counts. -/
def written (writes : List (String × Option Value)) (k : String) (old : Option Value) : Option Value :=
  writes.foldl (fun v w => if k = w.1 then w.2 else v) old

/-- The outcome of writes that have all been made. -/
structure Wrote (good : σ → Prop) (writes : List (String × Option Value)) (s : σ)
    (r : Except Store.Error Unit × σ) : Prop where
  done : r.1 = .ok ()
  good : good r.2
  lookup : ∀ k, lookup k r.2 = written writes k (lookup k s)

variable {good : σ → Prop} {writes : List (String × Option Value)} {s s' : σ}

theorem Reliable.wrote_put (h : Reliable good) (hs : good s) (key : String) (value : Option Value) :
    Wrote good [(key, value)] s (put key value s) := by
  obtain ⟨done, good, lookup⟩ := h.write key value s hs
  exact ⟨done, good, lookup⟩

/-! ## One write of several -/

section Writing

variable {key : String} {value : Option Value} {e : Store.Error}

theorem putEach_of_ok (done : (put key value s).1 = .ok ()) (rest : List (String × Option Value)) :
    putEach ((key, value) :: rest) s = putEach rest (put key value s).2 := by
  rw [putEach]
  split
  · next made => rw [made]
  · next failed => simp [failed] at done

theorem putEach_of_error (failed : (put key value s).1 = .error e) (rest : List (String × Option Value)) :
    putEach ((key, value) :: rest) s = (.error e, (put key value s).2) := by
  rw [putEach]
  split
  · next made => simp [made] at failed
  · next failed' => grind

theorem putRest_of_ok (done : (put key value s).1 = .ok ()) (old : List (String × Option Value))
    (before : Option Value) (rest : List ((String × Option Value) × Option Value)) :
    putRest old (((key, value), before) :: rest) s =
      putRest (old ++ [(key, before)]) rest (put key value s).2 := by
  rw [putRest]
  split
  · next made => rw [made]
  · next failed => simp [failed] at done

theorem putRest_of_error (failed : (put key value s).1 = .error e) (old : List (String × Option Value))
    (before : Option Value) (rest : List ((String × Option Value) × Option Value)) :
    putRest old (((key, value), before) :: rest) s = (.error e, restore old (put key value s).2) := by
  rw [putRest]
  split
  · next made => simp [made] at failed
  · next failed' => grind

end Writing

/-! ## Stores that fail at some keys -/

/-- Writes fail at the worn keys, always and only there, and a write that fails changes nothing. -/
structure FailsOn (worn : String → Prop) (good : σ → Prop) : Prop where
  write : ∀ key value s, ¬ worn key → good s → (put key value s).1 = .ok () ∧
    good (put key value s).2 ∧ ∀ k, lookup k (put key value s).2 = if k = key then value else lookup k s
  fail : ∀ key value s, worn key → good s → (∃ e, (put key value s).1 = .error e) ∧
    good (put key value s).2 ∧ ∀ k, lookup k (put key value s).2 = lookup k s

/-- Writes fail at one key at most, always there, and a write that fails changes nothing. -/
structure FailsAt (worn : Option String) (good : σ → Prop) : Prop where
  write : ∀ key value s, worn ≠ some key → good s → (put key value s).1 = .ok () ∧
    good (put key value s).2 ∧ ∀ k, lookup k (put key value s).2 = if k = key then value else lookup k s
  fail : ∀ key value s, worn = some key → good s → (∃ e, (put key value s).1 = .error e) ∧
    good (put key value s).2 ∧ ∀ k, lookup k (put key value s).2 = lookup k s

theorem FailsAt.failsOn {worn : Option String} (h : FailsAt worn good) : FailsOn (worn = some ·) good :=
  ⟨h.write, h.fail⟩

theorem Reliable.failsAt (h : Reliable good) : FailsAt none good :=
  ⟨fun key value s _ => h.write key value s, nofun⟩

section Spared

variable {worn : String → Prop}

theorem FailsOn.wrote_putEach (h : FailsOn worn good) (hs : good s) (writes : List (String × Option Value))
    (spared : ∀ w ∈ writes, ¬ worn w.1) : Wrote good writes s (putEach writes s) := by
  induction writes generalizing s with
  | nil => exact ⟨rfl, hs, fun _ => rfl⟩
  | cons w writes ih =>
    obtain ⟨key, value⟩ := w
    obtain ⟨first, rest⟩ := List.forall_mem_cons.1 spared
    obtain ⟨done, good, lookup⟩ := h.write key value s first hs
    obtain ⟨done', good', lookup'⟩ := ih good rest
    rw [putEach_of_ok done]
    refine ⟨done', good', fun k => ?_⟩
    rw [lookup', lookup]
    rfl

/-- If no write fails, nothing is restored. -/
theorem FailsOn.putRest_eq (h : FailsOn worn good) (hs : good s) (old : List (String × Option Value))
    (writes : List ((String × Option Value) × Option Value)) (spared : ∀ w ∈ writes, ¬ worn w.1.1) :
    putRest old writes s = putEach (writes.map (·.1)) s := by
  induction writes generalizing s old with
  | nil => rfl
  | cons w writes ih =>
    obtain ⟨⟨key, value⟩, before⟩ := w
    obtain ⟨first, rest⟩ := List.forall_mem_cons.1 spared
    obtain ⟨done, good, -⟩ := h.write key value s first hs
    rw [putRest_of_ok done, List.map_cons, putEach_of_ok done]
    exact ih good _ rest

theorem FailsOn.putAll_eq (h : FailsOn worn good) (hs : good s) (writes : List (String × Option Value))
    (spared : ∀ w ∈ writes, ¬ worn w.1) : putAll writes s = putEach writes s := by
  have same : (writes.map fun w => (w, value? w.1 s)).map (·.1) = writes := by simp [Function.comp_def]
  have sparedToo : ∀ w ∈ writes.map fun w => (w, value? w.1 s), ¬ worn w.1.1 := by
    intro w hw
    obtain ⟨v, hv, rfl⟩ := List.mem_map.1 hw
    exact spared v hv
  rw [putAll, h.putRest_eq hs _ _ sparedToo, same]

theorem FailsOn.wrote_putAll (h : FailsOn worn good) (hs : good s) (writes : List (String × Option Value))
    (spared : ∀ w ∈ writes, ¬ worn w.1) : Wrote good writes s (putAll writes s) := by
  rw [h.putAll_eq hs writes spared]
  exact h.wrote_putEach hs writes spared

end Spared

theorem Reliable.wrote_putEach (h : Reliable good) (hs : good s) (writes : List (String × Option Value)) :
    Wrote good writes s (putEach writes s) :=
  h.failsAt.failsOn.wrote_putEach hs writes fun _ _ => nofun

theorem Reliable.wrote_putAll (h : Reliable good) (hs : good s) (writes : List (String × Option Value)) :
    Wrote good writes s (putAll writes s) :=
  h.failsAt.failsOn.wrote_putAll hs writes fun _ _ => nofun

/-! ## Reading -/

/-- Two stores hold the same values under some keys. -/
def AgreeOn (keys : List String) (s s' : σ) : Prop := ∀ k ∈ keys, lookup k s' = lookup k s

theorem AgreeOn.refl (keys : List String) (s : σ) : AgreeOn keys s s := fun _ _ => rfl

theorem AgreeOn.trans {keys : List String} {s'' : σ} (h : AgreeOn keys s s') (h' : AgreeOn keys s' s'') :
    AgreeOn keys s s'' := fun k hk => (h' k hk).trans (h k hk)

/-- Writes to other keys. -/
theorem Wrote.agreeOn {r : Except Store.Error Unit × σ} {keys : List String} (h : Wrote good writes s r)
    (others : ∀ k ∈ writes.map (·.1), k ∉ keys) : AgreeOn keys s r.2 := by
  intro k hk
  rw [h.lookup]
  clear h
  induction writes with
  | nil => rfl
  | cons w writes ih =>
    obtain ⟨other, rest⟩ := List.forall_mem_cons.1 others
    have differs : k ≠ w.1 := by
      rintro rfl
      exact other hk
    rw [written, List.foldl_cons, if_neg differs]
    exact ih rest

theorem string?_congr {k : String} (h : lookup k s' = lookup k s) : string? k s' = string? k s := by
  unfold string?
  rw [h]

theorem integer?_congr {k : String} (h : lookup k s' = lookup k s) : integer? k s' = integer? k s := by
  unfold integer?
  rw [h]

theorem bool?_congr {k : String} (h : lookup k s' = lookup k s) : bool? k s' = bool? k s := by
  unfold bool?
  rw [h]

/-! ## Shelves -/

/-- Under which keys a manager keeps its intent and its set-up, and how it reads the set-up. -/
structure Shelf (σ α : Type) [Storage σ] where
  intent : String
  names : List String
  intent_not_mem : intent ∉ names
  read : σ → Option α
  read_congr : ∀ {s s' : σ}, AgreeOn names s s' → read s' = read s

namespace Shelf

variable {α : Type} {p : Shelf σ α} {setUp setUp' : Option α} {on : Bool} {others : List String}
  {before : σ}

def keys (p : Shelf σ α) : List String := p.intent :: p.names

/-- The store holds this set-up and this intent. -/
structure Holds (p : Shelf σ α) (setUp : Option α) (on : Bool) (s : σ) : Prop where
  setUp : p.read s = setUp
  intent : bool? p.intent s = some true ↔ on = true

/-- The store is good and holds this set-up and this intent. The keys of others are as they were in the store
before. -/
structure Keeps (p : Shelf σ α) (good : σ → Prop) (others : List String) (before : σ) (setUp : Option α)
    (on : Bool) (s : σ) : Prop extends p.Holds setUp on s where
  good : good s
  spares : AgreeOn others before s

/-- Others may write their own keys. -/
theorem Holds.of_agreeOn (h : p.Holds setUp on s) (agree : AgreeOn p.keys s s') :
    p.Holds setUp on s' := by
  refine ⟨?_, ?_⟩
  · rw [p.read_congr fun k hk => agree k (List.mem_cons_of_mem _ hk)]
    exact h.setUp
  · rw [bool?_congr (agree p.intent List.mem_cons_self)]
    exact h.intent

theorem Holds.keeps (h : p.Holds setUp on s) (hg : good s) : p.Keeps good others s setUp on s :=
  ⟨h, hg, .refl _ _⟩

/-- The intent is kept beside the set-up. -/
theorem keeps_put (reliable : Reliable good) (hg : good s) (h : p.read s = setUp) (on : Bool)
    (apart : p.intent ∉ others) :
    p.Keeps good others s setUp on (put p.intent (some (.bool on)) s).2 := by
  have wrote := reliable.wrote_put hg p.intent (some (.bool on))
  have spares := wrote.agreeOn (List.forall_mem_singleton.2 apart)
  have beside := wrote.agreeOn (List.forall_mem_singleton.2 p.intent_not_mem)
  refine ⟨⟨(p.read_congr beside).trans h, ?_⟩, wrote.good, spares⟩
  simp [bool?, wrote.lookup, written]

/-- The set-up is kept beside the intent. -/
theorem Keeps.adopt {r : Except Store.Error Unit × σ} (h : p.Keeps good others before setUp on s)
    (wrote : Wrote good writes s r) (own : writes.map (·.1) = p.names)
    (apart : ∀ k ∈ p.names, k ∉ others) (read : p.read r.2 = setUp') :
    p.Keeps good others before setUp' on r.2 := by
  have spares := wrote.agreeOn (own ▸ apart)
  have beside : AgreeOn [p.intent] s r.2 := by
    refine wrote.agreeOn ?_
    rw [own]
    intro k hk
    rw [List.mem_singleton]
    rintro rfl
    exact p.intent_not_mem hk
  refine ⟨⟨read, ?_⟩, wrote.good, h.spares.trans spares⟩
  rw [bool?_congr (beside _ List.mem_cons_self)]
  exact h.intent

end Shelf

end Storage

/-! ## Flash memory -/

namespace Store.Flash

/-- Memory of which no key is worn out. -/
structure Intact (f : Flash) : Prop where
  failing : f.failing = []
  eraseFails : f.eraseFails = false
  sorted : Dict.IsSorted f.values

theorem intact_empty : Intact {} := ⟨rfl, rfl, List.Pairwise.nil⟩

section Put

variable {key : String} {value : Option Value} {f : Flash}

theorem put_of_mem (h : key ∈ f.failing) : Storage.put key value f = (.error (.io "flash write failed"), f) :=
  if_pos h

theorem put_of_notMem (h : key ∉ f.failing) :
    Storage.put key value f = (.ok (), { f with values := Dict.put key value f.values }) :=
  if_neg h

end Put

theorem reliable_intact : Storage.Reliable Intact := by
  constructor
  · intro key value f h
    rw [put_of_notMem (by simp [h.failing])]
    exact ⟨rfl, ⟨h.failing, h.eraseFails, h.sorted.put key value⟩, fun k => Dict.find?_put h.sorted key k value⟩
  · intro f h
    have made : Flash.clear f = (.ok (), { f with values := [] }) := if_neg (by simp [h.eraseFails])
    refine ⟨congrArg Prod.fst made, ?_, ?_⟩
    · rw [show Storage.clear f = _ from made]
      exact ⟨h.failing, h.eraseFails, List.Pairwise.nil⟩
    · intro k
      rw [show Storage.clear f = _ from made]
      rfl

end Store.Flash

end Telemetry
