import Telemetry.Proofs.Link.Effect
import Telemetry.Proofs.Notices

/-!
# The notices of the link manager

Outside a tick an operation changes the status once at most, at its very end. A tick may pass through several statuses
before it is over, and its watcher is told of the last one only.
-/

namespace Telemetry

/-- What an event tells the watcher of a link manager. -/
def Event.linkNotice? : Event → Option Status
  | .linkNotice s => some s
  | _ => none

namespace Link

open Shows

variable {ρ σ : Type} {l l' : Link ρ σ} {start : Status}

instance : Shows (Link ρ σ) where
  indicator l := l.indicator
  trace l := l.trace
  notice? := Event.linkNotice?

/-! ## The parts of an operation -/

theorem told_notify (notice : Option Status) (l : Link ρ σ) : Told notice.toList l (l.notify notice) := by
  cases notice with
  | none => exact .of_same rfl
  | some s => exact ⟨[.linkNotice s], rfl, rfl⟩

theorem indicator_notify (notice : Option Status) (l : Link ρ σ) : (l.notify notice).indicator = l.indicator := by
  cases notice <;> rfl

theorem indicator_become (s : Status) (l : Link ρ σ) : (l.become s).indicator = (l.indicator.set s).1 :=
  indicator_notify _ _

/-- What is told of a status that is taken on. -/
theorem told_become (s : Status) (l : Link ρ σ) : Told (l.indicator.set s).2.toList l (l.become s) :=
  told_notify _ { l with indicator := (l.indicator.set s).1 }

theorem mirrored_become (rest : l.indicator.AtRest) (s : Status) : Mirrored l (l.become s) :=
  mirrored_set rest s (indicator_become s l) (told_become s l)

theorem held_become (tick : l.indicator.InTick start) (s : Status) : Held start l (l.become s) :=
  held_set tick s (indicator_become s l) (told_become s l)

theorem mute_resetBackoff (l : Link ρ σ) : Mute l l.resetBackoff := .of_same rfl rfl

section Radio

variable [Radio ρ]

theorem mute_dissociate (powerDown : Bool) (l : Link ρ σ) : Mute l (l.dissociate powerDown) :=
  mute_snoc (e := .dissociate powerDown) rfl rfl rfl

theorem mute_request (c : Credentials) (l : Link ρ σ) : Mute l (l.request c) :=
  mute_snoc (e := .associate c.identity c.secret _) rfl rfl rfl

theorem mirrored_connect (rest : l.indicator.AtRest) (c : Credentials) : Mirrored l (l.connect c) := by
  have requested := mute_request c l
  have asked : (l.request c).indicator.AtRest := rest
  rw [connect_eq]
  exact (mirrored_become asked (l.requestStatus c)).after requested

/-! ## A tick -/

theorem held_connect (tick : l.indicator.InTick start) (c : Credentials) : Held start l (l.connect c) := by
  have requested := (mute_request c l).held tick
  rw [connect_eq]
  exact requested.trans (held_become requested.tick (l.requestStatus c))

theorem held_reconnectIfDue (tick : l.indicator.InTick start) : Held start l l.reconnectIfDue := by
  unfold reconnectIfDue
  split
  · exact (Mute.refl l).held tick
  · exact held_become tick .error
  · next backoff _ =>
    have polled : Held start l { l with backoff } := Mute.held (.of_same rfl rfl) tick
    split
    · next c _ => exact polled.trans (held_connect polled.tick c)
    · exact polled.trans (held_become polled.tick .error)

/-- Whatever statuses a tick passes through, nobody is told while it lasts. -/
theorem held_advance (tick : l.indicator.InTick start) : Held start l l.advance := by
  have stays : Held start l l := (Mute.refl l).held tick
  have down : ∀ k : Link ρ σ, Held start l k → Held start l (k.become .disconnected) :=
    fun k h => h.trans (held_become h.tick .disconnected)
  have retries : ∀ k : Link ρ σ, Held start l k → Held start l k.reconnectIfDue :=
    fun k h => h.trans (held_reconnectIfDue h.tick)
  have fresh : ∀ k : Link ρ σ, Held start l k → Held start l k.resetBackoff :=
    fun k h => h.trans ((mute_resetBackoff k).held h.tick)
  unfold advance
  split
  · split
    · exact fresh _ (held_become tick .connected)
    · split
      · exact retries _ (down _ ((mute_dissociate false l).held tick))
      · exact stays
  · split
    · exact stays
    · exact retries _ (fresh _ (down _ stays))
  · exact retries _ stays
  · exact retries _ stays
  · exact stays

omit [Radio ρ] in
theorem mirrored_endTick (h : Held l.status l l') : Mirrored l l'.endTick :=
  h.mirrored (indicator_notify _ _) (told_notify _ { l' with indicator := l'.indicator.endTick.1 })

theorem mirrored_tick (rest : l.indicator.AtRest) : Mirrored l l.tick := by
  unfold tick
  split
  · have begun : Held l.status l l.beginTick.look := ⟨rest.beginTick, .of_same rfl⟩
    have advanced := begun.trans (held_advance begun.tick)
    exact mirrored_endTick advanced
  · exact (Mute.refl l).mirrored rest

/-! ## Turning on and off -/

section Storage

variable [Storage σ]

theorem mirrored_enable (rest : l.indicator.AtRest) : Mirrored l l.enable := by
  rw [enable_eq]
  split
  · exact (Mute.refl l).mirrored rest
  · split
    · exact mirrored_become rest .error
    · next c _ =>
      have on : Mute l l.turnOn.resetBackoff := .of_same rfl rfl
      exact (mirrored_connect (l := l.turnOn.resetBackoff) rest c).after on

theorem mirrored_init (rest : l.indicator.AtRest) : Mirrored l l.init := by
  unfold init
  split
  · exact mirrored_enable rest
  · exact (Mute.refl l).mirrored rest

theorem mirrored_disable (rest : l.indicator.AtRest) : Mirrored l l.disable := by
  have off : Mute l l.turnOff := .of_same rfl rfl
  have dropped := off.trans (mute_dissociate true l.turnOff)
  exact (mirrored_become (l := l.turnOff.dissociate true) rest .disabled).after dropped

omit [Radio ρ] in
theorem mirrored_setCredentials (rest : l.indicator.AtRest) (identity secret : String) :
    Mirrored l (l.setCredentials identity secret).2 := by
  obtain ⟨e, store, refused⟩ | ⟨c, store, -, adopted⟩ := setCredentials_cases identity secret l
  · rw [refused]
    exact Mute.mirrored (.of_same rfl rfl) rest
  · rw [adopted]
    exact Mute.mirrored (.of_same rfl rfl) rest

theorem mirrored_clearCredentials (rest : l.indicator.AtRest) : Mirrored l l.clearCredentials.2 := by
  have off : Mirrored l l.ensureOff := by
    unfold ensureOff
    split
    · exact mirrored_disable rest
    · exact (Mute.refl l).mirrored rest
  obtain ⟨e, store, refused⟩ | ⟨store, cleared⟩ := clearCredentials_cases l
  · rw [refused]
    exact off.before (.of_same rfl rfl)
  · rw [cleared]
    exact off.before (.of_same rfl rfl)

/-! ## Runs -/

theorem mirrored_perform (rest : l.indicator.AtRest) (op : Op) : Mirrored l (op.perform l).2 := by
  cases op with
  | init => exact mirrored_init rest
  | enable => exact mirrored_enable rest
  | disable => exact mirrored_disable rest
  | tick => exact mirrored_tick rest
  | setCredentials identity secret => exact mirrored_setCredentials rest identity secret
  | clearCredentials => exact mirrored_clearCredentials rest

/-- What the watcher is told in a turn. -/
def Turn.notices (t : Turn ρ σ) : List Status := t.events.filterMap Event.linkNotice?

/-- In each turn the watcher is told what has changed, so that it knows the status at the end of the run. -/
theorem mirrors_turns (rest : l.indicator.AtRest) (steps : List (Step ρ σ)) :
    (∀ t ∈ turns steps l, t.notices = t.before.status.news t.after.status) ∧
      Mirrors l.status ((turns steps l).flatMap Turn.notices) (run steps l).status := by
  induction steps generalizing l with
  | nil => exact ⟨fun _ ht => absurd ht List.not_mem_nil, mirrors_nil l.status⟩
  | cons s steps ih =>
    have met : (l.meet s).indicator.AtRest := rest
    let t : Turn ρ σ := { op := s.op, before := l.meet s }
    have mirrored : Mirrored t.before t.after := mirrored_perform met s.op
    have first : t.notices = l.status.news t.after.status := mirrored.notices
    obtain ⟨each, all⟩ := ih (l := t.after) mirrored.rest
    have whole : Mirrors l.status (t.notices ++ (turns steps t.after).flatMap Turn.notices)
        (run steps t.after).status := by
      rw [first]
      exact all.after
    exact ⟨List.forall_mem_cons.2 ⟨first, each⟩, whole⟩

end Storage

end Radio

end Link

end Telemetry
