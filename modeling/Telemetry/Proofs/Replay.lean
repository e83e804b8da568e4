import Mathlib.Data.List.Forall2

/-!
# Runs and replays

A machine is asked one thing after the other; each time it answers and moves on to another state. A run is
replayed on a machine in another state, with requests that correspond to the first ones one by one. If each
request keeps a relation between the two states and is answered alike in both, then a whole run does and is.
-/

namespace Telemetry

variable {ι α S : Type}

/-- Two answers with the states after them: the answers are the same and the states are related. -/
structure Alike (R : S → S → Prop) (r r' : α × S) : Prop where
  answer : r'.1 = r.1
  state : R r.2 r'.2

theorem Alike.map {γ : Type} {R : S → S → Prop} {r r' : α × S} (h : Alike R r r') (f : α → γ) :
    Alike R (f r.1, r.2) (f r'.1, r'.2) :=
  ⟨congrArg f h.answer, h.state⟩

/-- Two attempts that are alike fail for the same reason, or both succeed. -/
theorem Alike.cases {ε : Type} {R : S → S → Prop} {r r' : Except ε Unit × S} (h : Alike R r r') :
    (∃ e s s', r = (.error e, s) ∧ r' = (.error e, s') ∧ R s s') ∨
      ∃ s s', r = (.ok (), s) ∧ r' = (.ok (), s') ∧ R s s' := by
  obtain ⟨answer, s⟩ := r
  obtain ⟨answer', s'⟩ := r'
  obtain ⟨same, state⟩ := h
  obtain rfl : answer' = answer := same
  cases answer' with
  | error e => exact .inl ⟨e, s, s', rfl, rfl, state⟩
  | ok _ => exact .inr ⟨s, s', rfl, rfl, state⟩

/-- The answers along a run, each with the state after it. -/
def history (ask : ι → S → α × S) : List ι → S → List (α × S)
  | [], _ => []
  | i :: rest, s => ask i s :: history ask rest (ask i s).2

/-- The state at the end of a run. -/
def after (ask : ι → S → α × S) (is : List ι) (s : S) : S := is.foldl (fun s i => (ask i s).2) s

/-- What each request keeps, a run keeps. -/
theorem after_induction {ask : ι → S → α × S} {P : S → Prop} (step : ∀ i s, P s → P (ask i s).2) (is : List ι)
    {s : S} (h : P s) : P (after ask is s) := by
  induction is generalizing s with
  | nil => exact h
  | cons i is ih => exact ih (step i s h)

/-- What is seen of a run: the state at its start, then the answers, each with the state after it. -/
def observed {ν : Type} (ask : ι → S → α × S) (see : S → ν) (is : List ι) (s : S) : ν × List (α × ν) :=
  (see s, (history ask is s).map (Prod.map id see))

variable {ask : ι → S → α × S} {R : S → S → Prop}

/-- If related states look the same, and corresponding requests keep the relation and are answered alike, then a
run and its replay look the same. -/
theorem observed_forall₂ {ν : Type} {see : S → ν} (seen : ∀ s s', R s s' → see s' = see s) {Q : ι → ι → Prop}
    (step : ∀ i i', Q i i' → ∀ s s', R s s' → Alike R (ask i s) (ask i' s')) {is is' : List ι}
    (same : List.Forall₂ Q is is') {s s' : S} (h : R s s') :
    observed ask see is' s' = observed ask see is s := by
  refine Prod.ext (seen s s' h) ?_
  change (history ask is' s').map (Prod.map id see) = (history ask is s).map (Prod.map id see)
  induction same generalizing s s' with
  | nil => rfl
  | @cons i i' is is' like _ ih =>
    obtain ⟨answer, state⟩ := step i i' like s s' h
    have first : Prod.map id see (ask i' s') = Prod.map id see (ask i s) :=
      Prod.ext answer (seen _ _ state)
    rw [history, history, List.map_cons, List.map_cons, first, ih state]

/-- The requests of the replay are computed from those of the run. -/
theorem observed_map {ν : Type} {see : S → ν} (seen : ∀ s s', R s s' → see s' = see s) {f : ι → ι}
    (step : ∀ i s s', R s s' → Alike R (ask i s) (ask (f i) s')) (is : List ι) {s s' : S} (h : R s s') :
    observed ask see (is.map f) s' = observed ask see is s := by
  have computed : List.Forall₂ (fun i i' => i' = f i) is (is.map f) :=
    List.forall₂_map_right_iff.2 (List.forall₂_same.2 fun _ _ => rfl)
  refine observed_forall₂ seen ?_ computed h
  rintro i _ rfl
  exact step i

end Telemetry
