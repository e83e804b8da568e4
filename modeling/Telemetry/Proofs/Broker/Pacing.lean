import Mathlib.Data.List.Basic
import Telemetry.Bench.Equipment
import Telemetry.Proofs.Broker.Reconnect

/-!
# The pace of sessions

A manager that is on requests a session again and again, however often it has failed, and waits longer from one attempt
to the next, up to the ceiling. The waiting begins anew with a turn that turns the manager on, with a tick while the
link is down and with a tick that finds a session standing or lost. `history` are the starts since then.

A turn acts on the first reading of the clock that it takes, and requests a session on the last. These differ only if
time passes within a tick.

`Recalls` says that the backoff of a manager that is on goes by these starts. What a turn does to the backoff is said
by `Turn.Paces`, relative to the backoff that the turn works with.
-/

namespace Telemetry.Broker

open Backoff

variable {β σ : Type} [Client β] [Storage σ]

def Op.isTick : Op → Bool
  | tick _ => true
  | _ => false

namespace Turn

/-- The sessions that a turn requests. Those that a tick requests are attempts. -/
def starts (t : Turn β σ) : List Start :=
  (Event.openings t.events).map fun _ => ⟨t.op.isTick, t.before.look.now⟩

/-- The calls that make the starts. -/
def calls (t : Turn β σ) : List Call := t.starts.map fun s => { s with begun := t.after.now }

/-- Does the waiting begin anew with the turn? -/
def isReset (t : Turn β σ) : Bool :=
  !t.before.enabled && t.after.enabled ||
    match t.op with
    | .tick linkUp => !linkUp || t.before.arrives || t.before.isLost
    | _ => false

/-- The starts of the past that still count in a turn. -/
def kept (t : Turn β σ) (past : List Start) : List Start := if t.isReset then [] else past

/-- The backoff that a turn works with. -/
def base (t : Turn β σ) : Backoff := if t.isReset then t.before.backoff.reset else t.before.backoff

end Turn

/-- The starts since the waiting last began anew. -/
def history (ts : List (Turn β σ)) : List Start := ts.foldl (fun past t => t.kept past ++ t.starts) []

namespace Turn

variable {t : Turn β σ}

/-- What a turn makes of the backoff, and that it comes to `error` only with nothing started. -/
inductive Paces (t : Turn β σ) : Prop
  | rests (starts : t.starts = []) (backoff : t.after.backoff = t.base)
      (shown : t.after.status = .error → t.isReset = true ∨ t.before.status = .error)
  | begins (starts : t.starts = [⟨false, t.before.look.now⟩])
      (backoff : t.after.backoff = t.base.markStarted t.before.look.now) (shown : t.after.status ≠ .error)
      (clock : t.after.toClock = t.before.toClock.look)
  | attempts (tick : t.op.isTick = true) (starts : t.starts = [⟨true, t.before.look.now⟩])
      (backoff : t.after.backoff = t.base.recordAttempt t.before.look.now) (shown : t.after.status ≠ .error)
      (clock : t.after.toClock = t.before.toClock.look.look)

/-- Without a reset, a manager that is on after a turn was on before it. -/
theorem enabled_of_not_reset (h : t.isReset = false) (on : t.after.enabled = true) : t.before.enabled = true := by
  rw [isReset, Bool.or_eq_false_iff, on] at h
  simpa using h.1

theorem kept_of_reset (h : t.isReset = true) (past : List Start) : t.kept past = [] := if_pos h

theorem kept_of_not_reset (h : t.isReset = false) (past : List Start) : t.kept past = past := by simp [kept, h]

theorem base_of_reset (h : t.isReset = true) : t.base = t.before.backoff.reset := if_pos h

theorem base_of_not_reset (h : t.isReset = false) : t.base = t.before.backoff := by simp [base, h]

/-- The starts of a turn are those on its way. -/
theorem starts_eq (t : Turn β σ) {answers : List Bool}
    (told : ∃ es, t.after.trace = t.before.trace ++ es ∧ Event.openings es = answers) :
    t.starts = answers.map fun _ => ⟨t.op.isTick, t.before.look.now⟩ := by
  obtain ⟨es, trace, rfl⟩ := told
  rw [starts, events, trace, List.drop_left]

/-- Only an operation that is told that the link is up requests a session. -/
theorem starts_of_linkUp (t : Turn β σ) (down : t.op.linkUp? ≠ some true) : t.starts = [] := by
  have logs := logs_perform (b := t.before) admitsRest_closed t.op fun up => absurd up down
  obtain ⟨-, closed⟩ := t.events_of_logs logs
  rw [starts, Event.openings_of_closed closed]
  rfl

/-- A turn of a manager that stays as it is. -/
theorem paces_of_same (notTick : t.op.isTick = false) (starts : t.starts = [])
    (enabled : t.after.enabled = t.before.enabled) (backoff : t.after.backoff = t.before.backoff)
    (status : t.after.status = t.before.status) : t.Paces := by
  have noReset : t.isReset = false := by
    unfold isReset
    rw [enabled]
    cases op : t.op with
    | tick => simp [op, Op.isTick] at notTick
    | _ => simp
  refine .rests starts ?_ fun failed => .inr (status.symm.trans failed)
  rw [base_of_not_reset noReset]
  exact backoff

theorem paces_of_outward (notTick : t.op.isTick = false) (down : t.op.linkUp? ≠ some true)
    (outward : Outward t.before t.after) : t.Paces :=
  paces_of_same notTick (t.starts_of_linkUp down) outward.enabled outward.backoff outward.status

/-- Turning the manager on, be it by `enable` or by `init`. -/
theorem paces_of_enable (notTick : t.op.isTick = false) (sound : Sound t.before) (on : t.after.enabled = true)
    {linkUp : Bool} (turned : t.after = t.before.enable linkUp) : t.Paces := by
  obtain ⟨-, same⟩ | ⟨missing, refused⟩ | ⟨e, -, idle, started⟩ := enable_cases linkUp t.before
  · rw [same] at turned
    have none := t.starts_eq ⟨[], by simp [turned], rfl⟩
    exact paces_of_same notTick none (by rw [turned]) (by rw [turned]) (by rw [turned])
  · rw [turned, refused, (same_become .error t.before).enabled] at on
    have found := (sound.on on).1
    simp [missing] at found
  · have off : t.before.enabled = false := Bool.eq_false_iff.2 fun on => (sound.on on).2 (idle on)
    have reset : t.isReset = true := by simp [isReset, off, on]
    have fresh : Moves t.before [] t.base t.before.turnOn.resetBackoff :=
      .of_same rfl (base_of_reset reset).symm rfl rfl
    rw [started] at turned
    cases linkUp with
    | true =>
      rw [if_pos rfl] at turned
      have untried : t.before.turnOn.resetBackoff.backoff.attempts = 0 := rfl
      obtain ⟨answer, opened⟩ := moves_openSession e t.before.turnOn.resetBackoff
      rw [if_pos untried] at opened
      have moves := fresh.trans opened
      rw [← turned, fresh.backoff] at moves
      have one := t.starts_eq moves.told
      rw [notTick] at one
      refine .begins one moves.backoff ?_ moves.clock
      rw [turned, openSession_eq, status_become]
      obtain asked | refused := requestStatus_cases e t.before.turnOn.resetBackoff
      · simp [asked]
      · simp [refused]
    | false =>
      have moves := fresh.trans (moves_become .error _)
      rw [if_neg (by simp)] at turned
      rw [← turned, fresh.backoff] at moves
      exact .rests (t.starts_eq moves.told) moves.backoff fun _ => .inl reset

/-- A tick of a manager that is on works with the renewed backoff. -/
theorem base_of_tick (tick : t.op = .tick true) (on : t.before.enabled = true) : t.base = t.before.renewed := by
  simp [base, renewed, isReset, tick, on]

theorem paces_of_tick (tick : t.op = .tick true) (on : t.before.enabled = true)
    (h : Ticks t.before.look t.after) : t.Paces := by
  have counted : t.op.isTick = true := by rw [tick]; rfl
  have base := base_of_tick tick on
  cases h with
  | settled rests moves active =>
    refine .rests (t.starts_eq moves.told) (moves.backoff.trans base.symm) fun failed => ?_
    rw [failed] at active
    cases active
  | waits seeks early moves shown =>
    refine .rests (t.starts_eq moves.told) (moves.backoff.trans base.symm) fun failed => .inr ?_
    obtain found | down := shown
    · exact found
    · simp [failed] at down
  | attempts seeks due answer moves shown =>
    have one := t.starts_eq moves.told
    rw [counted] at one
    refine .attempts counted one ?_ ?_ moves.clock
    · rw [base]
      exact moves.backoff
    · obtain asked | refused := shown
      · simp [asked]
      · simp [refused]

/-- A tick while the link is down. -/
theorem paces_of_park (tick : t.op = .tick false) (on : t.before.enabled = true) : t.Paces := by
  have reset : t.isReset = true := by simp [isReset, tick]
  have after : t.after = t.before.beginTick.park.endTick := by
    rw [Turn.after, tick]
    exact if_pos on
  refine .rests (t.starts_of_linkUp (by simp [tick, Op.linkUp?])) ?_ fun _ => .inl reset
  rw [after, (moves_endTick _).backoff, base_of_reset reset]
  unfold park
  dsimp only
  rw [(moves_resetBackoff _).backoff, (moves_become .error _).backoff]
  split <;> rfl

theorem paces (t : Turn β σ) (sound : Sound t.before) (unlimited : t.before.backoff.policy.budget = none)
    (on : t.after.enabled = true) : t.Paces := by
  obtain ⟨op, b⟩ := t
  cases op with
  | init linkUp =>
    obtain turned | same := init_cases linkUp b
    · exact paces_of_enable rfl sound on turned
    · have none := Turn.starts_eq ⟨.init linkUp, b⟩ ⟨[], by simp [Turn.after, Op.perform, same], rfl⟩
      exact paces_of_same rfl none (congrArg (·.enabled) same) (congrArg (·.backoff) same) (congrArg (·.status) same)
  | enable linkUp => exact paces_of_enable rfl sound on rfl
  | disable => exact absurd on (by simp [Turn.after, Op.perform, (disables_disable b).same.enabled, turnOff, persist])
  | tick linkUp =>
    have before : b.enabled = true := (same_tick linkUp b).enabled.symm.trans on
    cases linkUp with
    | true => exact paces_of_tick rfl before (ticks_tick before unlimited (sound.on before).1 (sound.on before).2)
    | false => exact paces_of_park rfl before
  | publish id topic payload => exact paces_of_outward rfl (by simp [Op.linkUp?]) (outward_publish id topic payload b)
  | publishRecord record => exact paces_of_outward rfl (by simp [Op.linkUp?]) (outward_publishRecord record b)
  | setEndpoint host port username password =>
    have down := Turn.starts_of_linkUp ⟨.setEndpoint host port username password, b⟩ (by simp [Op.linkUp?])
    obtain ⟨e, store, refused⟩ | ⟨e, store, -, adopted⟩ := setEndpoint_cases host port username password b
    · have after := congrArg Prod.snd refused
      exact paces_of_same rfl down (congrArg (·.enabled) after) (congrArg (·.backoff) after)
        (congrArg (·.status) after)
    · have after := congrArg Prod.snd adopted
      exact paces_of_same rfl down (congrArg (·.enabled) after) (congrArg (·.backoff) after)
        (congrArg (·.status) after)
  | clearEndpoint =>
    obtain ⟨e, store, refused⟩ | ⟨store, cleared⟩ := clearEndpoint_cases b
    · exact absurd on (by simp [Turn.after, Op.perform, refused])
    · exact absurd on (by simp [Turn.after, Op.perform, cleared])
  | testConnection => exact paces_of_outward rfl (by simp [Op.linkUp?]) (outward_testConnection b)

/-- A manager that is off after a turn has the backoff that it had. -/
theorem backoff_of_off (t : Turn β σ) (off : t.after.enabled = false) : t.after.backoff = t.before.backoff := by
  obtain ⟨op, b⟩ := t
  cases op with
  | init linkUp =>
    obtain turned | same := init_cases linkUp b
    · have off : (b.enable linkUp).enabled = false := turned ▸ off
      exact (congrArg (·.backoff) turned).trans (moves_enable_of_off off).backoff
    · exact congrArg (·.backoff) same
  | enable linkUp => exact (moves_enable_of_off off).backoff
  | disable => exact backoff_disable b
  | tick linkUp =>
    have before : b.enabled = false := (same_tick linkUp b).enabled.symm.trans off
    exact congrArg (·.backoff) (if_neg (by simp [before]) : b.tick linkUp = b)
  | publish id topic payload => exact (outward_publish id topic payload b).backoff
  | publishRecord record => exact (outward_publishRecord record b).backoff
  | setEndpoint host port username password =>
    obtain ⟨e, store, refused⟩ | ⟨e, store, -, adopted⟩ := setEndpoint_cases host port username password b
    · exact congrArg (·.2.backoff) refused
    · exact congrArg (·.2.backoff) adopted
  | clearEndpoint =>
    obtain ⟨e, store, refused⟩ | ⟨store, cleared⟩ := clearEndpoint_cases b
    · exact (congrArg (·.2.backoff) refused).trans (backoff_ensureOff b)
    · exact (congrArg (·.2.backoff) cleared).trans (backoff_ensureOff b)
  | testConnection => exact (outward_testConnection b).backoff

end Turn

/-! ## Runs -/

/-- What holds at every point of a run of a manager with these settings; the past are the starts that count. -/
structure Recalls (settings : Settings.Broker) (past : List Start) (b : Broker β σ) : Prop where
  sound : Sound b
  policy : b.backoff.policy = settings.policy
  tracks : b.enabled = true → Tracks settings.policy past b.backoff
  /-- A manager that is on comes to `error` with the waiting begun anew. -/
  fresh : b.enabled = true → b.status = .error → past = []

variable {settings : Settings.Broker} {past : List Start} {b : Broker β σ} {t : Turn β σ}

omit [Client β] [Storage σ] in
theorem Recalls.meet (h : Recalls settings past b) (s : Step β σ) : Recalls settings past (b.meet s) :=
  ⟨⟨h.sound.on, h.sound.off, h.sound.valid, h.sound.fits⟩, h.policy, h.tracks, h.fresh⟩

omit [Client β] [Storage σ] in
theorem Recalls.unlimited (h : Recalls settings past b) : b.backoff.policy.budget = none := by
  rw [h.policy]
  rfl

/-- The backoff that a turn works with goes by the starts that still count. -/
theorem Recalls.base (valid : settings.policy.check = .ok ()) (h : Recalls settings past t.before)
    (on : t.after.enabled = true) : Tracks settings.policy (t.kept past) t.base := by
  cases reset : t.isReset with
  | true =>
    rw [Turn.base_of_reset reset, Turn.kept_of_reset reset]
    exact tracks_reset valid h.policy
  | false =>
    rw [Turn.base_of_not_reset reset, Turn.kept_of_not_reset reset]
    exact h.tracks (Turn.enabled_of_not_reset reset on)

theorem Recalls.after (valid : settings.policy.check = .ok ()) (h : Recalls settings past t.before) :
    Recalls settings (t.kept past ++ t.starts) t.after := by
  have sound := h.sound.perform t.op
  cases on : t.after.enabled with
  | false =>
    refine ⟨sound, ?_, fun still => ?_, fun still => ?_⟩
    · rw [t.backoff_of_off on]
      exact h.policy
    · simp [on] at still
    · simp [on] at still
  | true =>
    have base := h.base valid on
    cases t.paces h.sound h.unlimited on with
    | rests none backoff shown =>
      have tracks : Tracks settings.policy (t.kept past) t.after.backoff := backoff ▸ base
      rw [none, List.append_nil]
      refine ⟨sound, tracks.policy, fun _ => tracks, fun _ failed => ?_⟩
      cases reset : t.isReset with
      | true => exact Turn.kept_of_reset reset past
      | false =>
        rw [Turn.kept_of_not_reset reset]
        exact h.fresh (Turn.enabled_of_not_reset reset on) ((shown failed).resolve_left (by simp [reset]))
    | begins one backoff shown _ =>
      have tracks := base.markStarted t.before.look.now
      rw [← backoff, ← one] at tracks
      exact ⟨sound, tracks.policy, fun _ => tracks, fun _ failed => absurd failed shown⟩
    | attempts _ one backoff shown _ =>
      have tracks := base.recordAttempt t.before.look.now
      rw [← backoff, ← one] at tracks
      exact ⟨sound, tracks.policy, fun _ => tracks, fun _ failed => absurd failed shown⟩

theorem Recalls.run (valid : settings.policy.check = .ok ()) (h : Recalls settings past b) (steps : List (Step β σ)) :
    Recalls settings ((turns steps b).foldl (fun past t => t.kept past ++ t.starts) past) (run steps b) := by
  induction steps generalizing b past with
  | nil => exact h
  | cons s steps ih =>
    let t : Turn β σ := ⟨s.op, b.meet s⟩
    have met : Recalls settings past t.before := h.meet s
    exact ih (met.after valid)

/-- A tick with the link up that finds no session, or gives one up, requests a session exactly if nothing has been
started since the waiting began anew, or if the wait since the last start has passed. It never ends in `error`. -/
theorem Recalls.tick (valid : settings.policy.check = .ok ()) (h : Recalls settings past t.before)
    (tick : t.op = .tick true) (on : t.before.enabled = true) :
    (t.starts = if t.before.look.seeks = true ∧ IsDue settings.policy (t.kept past) t.before.look.now
      then [⟨true, t.before.look.now⟩] else []) ∧
    (t.after.status = .disconnected ∨ t.after.status = .connecting ∨ t.after.status = .connected) := by
  have after : t.after = t.before.tick true := by rw [Turn.after, tick]; rfl
  have still : t.after.enabled = true := by rw [after, (same_tick true t.before).enabled, on]
  have tracks := h.base valid still
  rw [Turn.base_of_tick tick on] at tracks
  have counted : t.op.isTick = true := by rw [tick]; rfl
  obtain ⟨found, shown⟩ := h.sound.on on
  have ticks := ticks_tick on h.unlimited found shown
  rw [← after] at ticks
  cases ticks with
  | settled rests moves active =>
    rw [t.starts_eq moves.told, if_neg (by simp [rests])]
    refine ⟨rfl, .inr ?_⟩
    simpa [Status.isActive] using active
  | waits seeks early moves shown =>
    have notDue : ¬ IsDue settings.policy (t.kept past) t.before.look.now := by
      rw [← tracks.isEarly_iff, Bool.not_eq_false]
      exact early
    rw [t.starts_eq moves.told, if_neg (notDue ·.2)]
    refine ⟨rfl, .inl (shown.resolve_left fun failed => notDue ?_)⟩
    -- The wait has begun anew in a manager that shows `error`, so an attempt is due.
    have none : t.kept past = [] := by
      rw [h.fresh on failed]
      exact ite_self []
    simp [none, IsDue]
  | attempts seeks due answer moves shown =>
    rw [t.starts_eq moves.told, if_pos ⟨seeks, tracks.isEarly_iff.1 due⟩, counted]
    exact ⟨rfl, shown.symm.imp_right .inl⟩

namespace Sample

/-- A board on which the clock is read like this. -/
def board (readings : List UInt32) : Board Store.Flash where
  now := 0
  later := readings
  store := { values := [(Store.brokerHost, .string "broker.local"), (Store.brokerPort, .integer 1883)] }

/-- A step that reads the clock like this, with a client that refuses. -/
def step (readings : List UInt32) (op : Op) : Step Bench.Client Store.Flash :=
  { client := { refusesSessions := true }, board := board readings, op }

/-- The manager is turned on shortly before the clock starts over, and ticks come early and in time. -/
def steps : List (Step Bench.Client Store.Flash) :=
  [step [4294966000] (.enable true), step [3703] (.tick true), step [3704, 3706] (.tick true), step [13703] (.tick true)]

def start : Broker Bench.Client Store.Flash := load {} "unit" false {} (board [])

end Sample

end Telemetry.Broker
