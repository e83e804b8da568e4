import Mathlib.Data.List.Chain
import Telemetry.Event
import Telemetry.Indicator

/-!
# What a watcher is told

A watcher follows a manager by its notices alone. Outside a tick a change is told at once; inside one the
notices are held back, and the end of the tick tells where the status has got to. `Mute`, `Held` and `Mirrored`
say what a part of an operation may do to the watcher: nothing at all, nothing until the tick ends, and exactly
what has changed. An operation is made of parts of the first two kinds and one of the third, so that the notices of
a run mirror the status.
-/

namespace Telemetry

/-- What is to be told when one status has become another. -/
def Status.news (before after : Status) : List Status := if after = before then [] else [after]

/-- The statuses that were told lead from the first to the last, and each is another than the one before it. -/
structure Mirrors (first : Status) (told : List Status) (last : Status) : Prop where
  differ : (first :: told).IsChain (· ≠ ·)
  last : told.getLast?.getD first = last

theorem mirrors_nil (s : Status) : Mirrors s [] s := ⟨.singleton s, rfl⟩

theorem Mirrors.cons {s t u : Status} {told : List Status} (differs : s ≠ t) (h : Mirrors t told u) :
    Mirrors s (t :: told) u := by
  refine ⟨List.isChain_cons_cons.2 ⟨differs, h.differ⟩, ?_⟩
  rw [List.getLast?_cons, Option.getD_some]
  exact h.last

/-- One more operation, told as it is to be. -/
theorem Mirrors.after {s t u : Status} {told : List Status} (h : Mirrors t told u) :
    Mirrors s (s.news t ++ told) u := by
  unfold Status.news
  split
  · next same => rwa [← same]
  · next differs => exact h.cons (Ne.symm differs)

namespace Indicator

/-- It is watched, and no tick is in progress. -/
structure AtRest (i : Indicator) : Prop where
  outside : i.tickStart = none
  watched : i.watched = true

/-- It is watched, and a tick is in progress that began with this status. -/
structure InTick (start : Status) (i : Indicator) : Prop where
  inside : i.tickStart = some start
  watched : i.watched = true

variable {i : Indicator}

theorem AtRest.set (h : i.AtRest) (s : Status) :
    (i.set s).1.AtRest ∧ (i.set s).2.toList = i.status.news s := by
  refine ⟨⟨?_, ?_⟩, ?_⟩
  · simp [h.outside]
  · simp [h.watched]
  · by_cases same : i.status = s
    · simp [Indicator.set, Status.news, same]
    · simp [Indicator.set, Status.news, announce, same, Ne.symm same, h.outside, h.watched]

theorem AtRest.beginTick (h : i.AtRest) : i.beginTick.InTick i.status := ⟨rfl, h.watched⟩

theorem InTick.set {start : Status} (h : i.InTick start) (s : Status) :
    (i.set s).1.InTick start ∧ (i.set s).2 = none := by
  refine ⟨⟨?_, ?_⟩, ?_⟩
  · simp [h.inside]
  · simp [h.watched]
  · by_cases same : i.status = s <;> simp [Indicator.set, same, h.inside]

theorem InTick.endTick {start : Status} (h : i.InTick start) :
    i.endTick.1.AtRest ∧ i.endTick.2.toList = start.news i.status := by
  have ended : i.endTick =
      ({ i with tickStart := none }, if start = i.status then none else some i.status) := by
    simp [Indicator.endTick, announce, h.inside, h.watched]
  rw [ended]
  refine ⟨⟨rfl, h.watched⟩, ?_⟩
  by_cases same : i.status = start
  · simp [Status.news, same]
  · simp [Status.news, same, Ne.symm same]

end Indicator

/-- A manager that shows a status and tells its watcher about it. -/
class Shows (S : Type) where
  indicator : S → Indicator
  trace : S → List Event
  /-- What an event tells the watcher of this manager. -/
  notice? : Event → Option Status

namespace Shows

variable {S : Type} [Shows S] {m m' m'' : S} {told told' : List Status} {start : Status}

def status (m : S) : Status := (indicator m).status

/-- What the watcher is told by these events. -/
def notices (S : Type) [Shows S] (es : List Event) : List Status := es.filterMap (notice? (S := S))

/-- On the way from `m` to `m'` the watcher was told this. -/
def Told (told : List Status) (m m' : S) : Prop := ∃ es, trace m' = trace m ++ es ∧ notices S es = told

theorem Told.of_same (same : trace m' = trace m) : Told [] m m' := ⟨[], by simp [same], rfl⟩

theorem Told.trans (h : Told told m m') (h' : Told told' m' m'') : Told (told ++ told') m m'' := by
  obtain ⟨es, trace, rfl⟩ := h
  obtain ⟨es', trace', rfl⟩ := h'
  refine ⟨es ++ es', ?_, List.filterMap_append⟩
  rw [trace', trace, List.append_assoc]

/-- The status was left alone, and nobody was told anything. -/
structure Mute (m m' : S) : Prop where
  shown : indicator m' = indicator m
  told : Told [] m m'

/-- A tick that began with this status is still in progress, and nobody was told anything. -/
structure Held (start : Status) (m m' : S) : Prop where
  tick : (indicator m').InTick start
  told : Told [] m m'

/-- The watcher was told of the status, if it is another one, and of nothing else. -/
structure Mirrored (m m' : S) : Prop where
  rest : (indicator m').AtRest
  told : Told ((status m).news (status m')) m m'

theorem Mute.of_same (indicator : indicator m' = indicator m) (trace : trace m' = trace m) : Mute m m' :=
  ⟨indicator, .of_same trace⟩

theorem Mute.refl (m : S) : Mute m m := .of_same rfl rfl

theorem Mute.trans (h : Mute m m') (h' : Mute m' m'') : Mute m m'' :=
  ⟨h'.shown.trans h.shown, h.told.trans h'.told⟩

/-- An event that is no notice. -/
theorem mute_snoc {e : Event} (silent : notice? (S := S) e = none) (indicator : indicator m' = indicator m)
    (trace : trace m' = trace m ++ [e]) : Mute m m' :=
  ⟨indicator, [e], trace, by simp [notices, silent]⟩

theorem Mute.held (h : Mute m m') (tick : (indicator m).InTick start) : Held start m m' :=
  ⟨by rwa [h.shown], h.told⟩

theorem Held.trans (h : Held start m m') (h' : Held start m' m'') : Held start m m'' :=
  ⟨h'.tick, h.told.trans h'.told⟩

theorem Mute.mirrored (h : Mute m m') (rest : (indicator m).AtRest) : Mirrored m m' := by
  have same : status m' = status m := congrArg Indicator.status h.shown
  refine ⟨by rwa [h.shown], ?_⟩
  rw [same, Status.news, if_pos rfl]
  exact h.told

theorem Mirrored.after (h : Mirrored m' m'') (before : Mute m m') : Mirrored m m'' := by
  have same : status m' = status m := congrArg Indicator.status before.shown
  refine ⟨h.rest, ?_⟩
  rw [← same]
  exact before.told.trans h.told

theorem Mirrored.before (h : Mirrored m m') (after : Mute m' m'') : Mirrored m m'' := by
  have same : status m'' = status m' := congrArg Indicator.status after.shown
  refine ⟨by rw [after.shown]; exact h.rest, ?_⟩
  rw [same, ← List.append_nil (Status.news _ _)]
  exact h.told.trans after.told

/-- A status that is taken on outside a tick is told at once. -/
theorem mirrored_set (rest : (indicator m).AtRest) (s : Status) (shown : indicator m' = ((indicator m).set s).1)
    (told : Told ((indicator m).set s).2.toList m m') : Mirrored m m' := by
  obtain ⟨rested, news⟩ := rest.set s
  have taken : status m' = s := by rw [status, shown, Indicator.status_set]
  refine ⟨by rwa [shown], ?_⟩
  rw [taken]
  rwa [news] at told

/-- One that is taken on in a tick is told to nobody. -/
theorem held_set (tick : (indicator m).InTick start) (s : Status) (shown : indicator m' = ((indicator m).set s).1)
    (told : Told ((indicator m).set s).2.toList m m') : Held start m m' := by
  obtain ⟨inTick, silent⟩ := tick.set s
  refine ⟨by rwa [shown], ?_⟩
  rwa [silent] at told

/-- The end of a tick tells where it has got to. -/
theorem Held.mirrored (h : Held (status m) m m') (shown : indicator m'' = (indicator m').endTick.1)
    (told : Told (indicator m').endTick.2.toList m' m'') : Mirrored m m'' := by
  obtain ⟨rested, news⟩ := h.tick.endTick
  have kept : status m'' = status m' := by rw [status, shown, Indicator.status_endTick, status]
  refine ⟨by rwa [shown], ?_⟩
  rw [kept]
  rw [news] at told
  exact h.told.trans told

/-- The events that were added are what the watcher was told by. -/
theorem Mirrored.notices (h : Mirrored m m') :
    notices S ((trace m').drop (trace m).length) = (status m).news (status m') := by
  obtain ⟨es, trace, told⟩ := h.told
  rw [trace, List.drop_left, told]

end Shows

end Telemetry
