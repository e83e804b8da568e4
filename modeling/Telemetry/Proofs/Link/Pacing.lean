import Mathlib.Data.List.SplitBy
import Telemetry.Bench.Equipment
import Telemetry.Proofs.Backoff
import Telemetry.Proofs.Link.Sound

/-!
# The pace of reconnecting

A run is cut into pieces wherever the backoff is reset. Inside a piece the ticks start at most as many
associations as the budget allows, each after its wait, and a link that a tick has given up stays in `error`.

A turn acts on the first reading of the clock that it takes, and calls for an association on the last. These
differ only if time passes within a tick. The waits are kept between the readings that are acted on, so the calls
keep them as well while no tick takes time.

What a turn does to the backoff is said by `Turn.Paces`, relative to the backoff that it works with:
`Turn.base` is the one that it finds, reset if the turn begins a piece.
-/

namespace Telemetry.Link

open Backoff

variable {ρ σ : Type} [Radio ρ] [Storage σ]

namespace Turn

/-- The associations that a turn starts. Those that a tick starts are attempts. -/
def starts (t : Turn ρ σ) : List Start :=
  (Event.associations t.events).map fun _ => ⟨t.op = .tick, t.before.look.now⟩

/-- The calls that make the starts. -/
def calls (t : Turn ρ σ) : List Call := t.starts.map fun s => { s with begun := t.after.now }

/-- Does the turn reset the backoff? New credentials do so, and so do turning the link on, an association that
is found to stand and one that is found to be lost. -/
def isReset (t : Turn ρ σ) : Bool :=
  match t.op with
  | .setCredentials _ _ => t.answer.isOk
  | .init | .enable => !t.starts.isEmpty
  | .tick => t.before.enabled && (t.before.arrives || t.before.isLost)
  | .disable | .clearCredentials => false

/-- Is the link turned off? -/
def turnsOff (t : Turn ρ σ) : Bool :=
  match t.op with
  | .disable => true
  | .clearCredentials => t.before.enabled
  | _ => false

end Turn

/-- A run, cut in front of every turn that resets the backoff. -/
def pieces (ts : List (Turn ρ σ)) : List (List (Turn ρ σ)) := ts.splitBy fun _ t => !t.isReset

/-- The associations that are started in a piece. -/
def starts (piece : List (Turn ρ σ)) : List Start := piece.flatMap Turn.starts

/-- The calls that are made in a piece. -/
def calls (piece : List (Turn ρ σ)) : List Call := piece.flatMap Turn.calls

namespace Turn

variable {t : Turn ρ σ}

/-- The backoff that a turn works with. -/
def base (t : Turn ρ σ) : Backoff := if t.isReset then t.before.backoff.reset else t.before.backoff

inductive Paces (t : Turn ρ σ) : Prop
  | rests (starts : t.starts = []) (backoff : t.after.backoff = t.base)
  | begins (starts : t.starts = [⟨false, t.before.look.now⟩])
      (backoff : t.after.backoff = t.base.markStarted t.before.look.now)
      (clock : t.after.toClock = t.before.toClock.look)
  | attempts (tick : t.op = .tick) (left : t.base.isSpent = false)
      (due : t.base.isEarly t.before.look.now = false) (starts : t.starts = [⟨true, t.before.look.now⟩])
      (backoff : t.after.backoff = t.base.recordAttempt t.before.look.now)
      (clock : t.after.toClock = t.before.toClock.look.look)

theorem base_of_reset (h : t.isReset = true) : t.base = t.before.backoff.reset := if_pos h

theorem base_of_not_reset (h : t.isReset = false) : t.base = t.before.backoff := by simp [base, h]

/-- The starts of a turn are those on its way. -/
theorem starts_eq (t : Turn ρ σ) {answers : List Bool}
    (told : ∃ es, t.after.trace = t.before.trace ++ es ∧ Event.associations es = answers) :
    t.starts = answers.map fun _ => ⟨t.op = .tick, t.before.look.now⟩ := by
  obtain ⟨es, trace, rfl⟩ := told
  rw [starts, events, trace, List.drop_left]

theorem starts_of_same (t : Turn ρ σ) (same : t.after.trace = t.before.trace) : t.starts = [] :=
  t.starts_eq ⟨[], by simp [same], rfl⟩

theorem Paces.policy (h : t.Paces) : t.after.backoff.policy = t.before.backoff.policy := by
  have base : t.base.policy = t.before.backoff.policy := by
    unfold Turn.base
    split <;> rfl
  cases h with
  | rests _ backoff | begins _ backoff _ | attempts _ _ _ _ backoff _ =>
    rw [backoff]
    exact base

/-- A turn carries the pace on from the backoff that it works with. -/
theorem Paces.paced {p : Policy} {n : UInt32} {s : List Start} (h : t.Paces)
    (budget : p.budget = some n) (paced : Paced p n s t.base) :
    Paced p n (s ++ t.starts) t.after.backoff := by
  cases h with
  | rests starts backoff =>
    rw [starts, backoff, List.append_nil]
    exact paced
  | begins starts backoff _ =>
    rw [starts, backoff]
    exact paced.markStarted t.before.look.now
  | attempts _ left due starts backoff _ =>
    rw [starts, backoff]
    exact paced.recordAttempt budget left due

end Turn

variable {l l' : Link ρ σ}

theorem paces_tick (sound : Sound l) : Turn.Paces ⟨.tick, l⟩ := by
  let t : Turn ρ σ := ⟨.tick, l⟩
  cases on : l.enabled with
  | false =>
    have off := tick_of_off on
    have noReset : t.isReset = false := by simp [t, Turn.isReset, on]
    refine .rests (t.starts_of_same (congrArg (·.trace) off)) ?_
    rw [Turn.base_of_not_reset noReset]
    exact congrArg (·.backoff) off
  | true =>
    have retried : ∀ {b}, Retries l.look b l.tick → t.base = b → t.Paces := by
      intro b retries base
      cases retries with
      | waits left early moves status => exact .rests (t.starts_eq moves.told) (moves.backoff.trans base.symm)
      | givesUp spent moves status => exact .rests (t.starts_eq moves.told) (moves.backoff.trans base.symm)
      | attempts left due answer moves status =>
        refine .attempts rfl ?_ ?_ (t.starts_eq moves.told) (moves.backoff.trans ?_) moves.clock
        · rwa [base]
        · rwa [base]
        · rw [base]
    cases sound.ticks on with
    | stays active moves arrived lost status =>
      rw [arrives_look] at arrived
      rw [isLost_look] at lost
      have noReset : t.isReset = false := by simp [t, Turn.isReset, arrived, lost]
      refine .rests (t.starts_eq moves.told) ?_
      rw [Turn.base_of_not_reset noReset]
      exact moves.backoff
    | arrives arrived moves status =>
      rw [arrives_look] at arrived
      have reset : t.isReset = true := by simp [t, Turn.isReset, on, arrived]
      refine .rests (t.starts_eq moves.told) ?_
      rw [Turn.base_of_reset reset]
      exact moves.backoff
    | loses lost retries =>
      rw [isLost_look] at lost
      have reset : t.isReset = true := by simp [t, Turn.isReset, on, lost]
      exact retried retries (Turn.base_of_reset reset)
    | retries arrived lost retries =>
      rw [arrives_look] at arrived
      rw [isLost_look] at lost
      have noReset : t.isReset = false := by simp [t, Turn.isReset, arrived, lost]
      exact retried retries (Turn.base_of_not_reset noReset)

/-- A turn that leaves the link alone is at rest. -/
theorem paces_of_same {t : Turn ρ σ} (trace : t.after.trace = t.before.trace)
    (backoff : t.after.backoff = t.before.backoff) (noReset : t.isReset = false) : t.Paces := by
  refine .rests (t.starts_of_same trace) ?_
  rw [Turn.base_of_not_reset noReset]
  exact backoff

/-- Turning the link on, be it by `enable` or by `init`. -/
theorem paces_of_enables {t : Turn ρ σ} (notTick : t.op ≠ .tick)
    (reset : t.isReset = !t.starts.isEmpty) (h : Enables t.before t.after) : t.Paces := by
  cases h with
  | busy busy same =>
    have trace : t.after.trace = t.before.trace := by rw [same]
    exact paces_of_same trace (by rw [same]) (by rw [reset, t.starts_of_same trace]; rfl)
  | refuses idle missing moves status =>
    have none := t.starts_eq moves.told
    refine .rests none ?_
    rw [Turn.base_of_not_reset (by rw [reset, none]; rfl)]
    exact moves.backoff
  | starts idle found answer moves status =>
    have one := t.starts_eq moves.told
    simp only [notTick, decide_false, List.map_cons, List.map_nil] at one
    refine .begins one ?_ moves.clock
    rw [Turn.base_of_reset (by rw [reset, one]; rfl)]
    exact moves.backoff

theorem Turn.paces (t : Turn ρ σ) (sound : Sound t.before) : t.Paces := by
  obtain ⟨op, l⟩ := t
  cases op with
  | tick => exact paces_tick sound
  | enable => exact paces_of_enables (by simp) rfl (enables_enable l)
  | init =>
    obtain on | same := init_cases l
    · exact paces_of_enables (by simp) rfl on
    · have none := Turn.starts_of_same ⟨.init, l⟩ (congrArg (·.trace) same)
      refine paces_of_same (congrArg (·.trace) same) (congrArg (·.backoff) same) ?_
      simp [Turn.isReset, none]
  | disable =>
    have moves := moves_disable l
    exact .rests (Turn.starts_eq ⟨.disable, l⟩ moves.told) moves.backoff
  | setCredentials identity secret =>
    let t : Turn ρ σ := ⟨.setCredentials identity secret, l⟩
    obtain ⟨e, store, refused⟩ | ⟨c, store, made, adopted⟩ := setCredentials_cases identity secret l
    · have answer : t.answer = .error e := congrArg Prod.fst refused
      have after : t.after = { l with store } := congrArg Prod.snd refused
      exact paces_of_same (congrArg (·.trace) after) (congrArg (·.backoff) after)
        (by simp [t, Turn.isReset, answer, Except.isOk, Except.toBool])
    · have answer : t.answer = .ok () := congrArg Prod.fst adopted
      have after : t.after = { l with store, credentials := some c }.resetBackoff := congrArg Prod.snd adopted
      have reset : t.isReset = true := by simp [t, Turn.isReset, answer, Except.isOk, Except.toBool]
      refine .rests (t.starts_of_same (congrArg (·.trace) after)) ?_
      rw [Turn.base_of_reset reset]
      exact congrArg (·.backoff) after
  | clearCredentials =>
    let t : Turn ρ σ := ⟨.clearCredentials, l⟩
    have off : (∃ es, l.ensureOff.trace = l.trace ++ es ∧ Event.associations es = []) ∧
        l.ensureOff.backoff = l.backoff := by
      unfold ensureOff
      split
      · have moves := moves_disable l
        exact ⟨moves.told, moves.backoff⟩
      · exact ⟨⟨[], by simp, rfl⟩, rfl⟩
    have rests : ∀ {store credentials}, t.after = { l.ensureOff with store, credentials } → t.Paces := by
      intro store credentials after
      have told : ∃ es, t.after.trace = l.trace ++ es ∧ Event.associations es = [] := by
        rw [after]
        exact off.1
      refine .rests (t.starts_eq told) ?_
      rw [Turn.base_of_not_reset rfl, after]
      exact off.2
    obtain ⟨e, store, refused⟩ | ⟨store, cleared⟩ := clearCredentials_cases l
    · exact rests (congrArg Prod.snd refused)
    · exact rests (congrArg Prod.snd cleared)

/-! ## Pieces of a run -/

/-- What holds at every point of a run of a link with these settings. -/
structure Steady (settings : Settings.Link) (l : Link ρ σ) : Prop where
  sound : Sound l
  calm : Calm l
  policy : l.backoff.policy = settings.policy

variable {settings : Settings.Link}

omit [Radio ρ] [Storage σ] in
theorem Steady.meet (h : Steady settings l) (s : Step ρ σ) : Steady settings (l.meet s) :=
  ⟨⟨h.sound.on, h.sound.off, h.sound.valid⟩, h.calm, h.policy⟩

theorem Steady.perform (h : Steady settings l) (op : Op) : Steady settings (op.perform l).2 :=
  ⟨h.sound.perform op, h.calm.perform h.sound op, (Turn.paces ⟨op, l⟩ h.sound).policy.trans h.policy⟩

theorem Steady.run (h : Steady settings l) (steps : List (Step ρ σ)) :
    Steady settings (run steps l) := by
  induction steps generalizing l with
  | nil => exact h
  | cons s steps ih => exact ih ((h.meet s).perform s.op)

/-- The link shows `error`, and ticks do not change that. -/
structure GivenUp (l : Link ρ σ) : Prop where
  status : l.status = .error
  spent : l.enabled = true → l.backoff.isSpent = true

theorem GivenUp.of_enables {t : Turn ρ σ} (h : GivenUp t.before) (none : t.starts = [])
    (enables : Enables t.before t.after) : GivenUp t.after := by
  cases enables with
  | busy busy same => rwa [same]
  | refuses idle missing moves status =>
    exact ⟨status, fun on => moves.backoff ▸ h.spent (moves.enabled ▸ on)⟩
  | starts idle found answer moves status =>
    rw [t.starts_eq moves.told] at none
    cases none

/-- Only a reset of the backoff or turning the link off gets it out of `error`. -/
theorem GivenUp.after {t : Turn ρ σ} (h : GivenUp t.before) (sound : Sound t.before)
    (noReset : t.isReset = false) (on : t.turnsOff = false) : GivenUp t.after := by
  obtain ⟨op, l⟩ := t
  cases op with
  | init =>
    have none : Turn.starts ⟨.init, l⟩ = [] := by simpa [Turn.isReset] using noReset
    obtain on | same := init_cases l
    · exact h.of_enables none on
    · show GivenUp l.init
      rwa [same]
  | enable =>
    have none : Turn.starts ⟨.enable, l⟩ = [] := by simpa [Turn.isReset] using noReset
    exact h.of_enables none (enables_enable l)
  | disable => cases on
  | tick =>
    show GivenUp l.tick
    cases enabled : l.enabled with
    | false => rwa [tick_of_off enabled]
    | true =>
      have spent : l.backoff.isSpent = true := h.spent enabled
      simp only [Turn.isReset, enabled, Bool.true_and, Bool.or_eq_false_iff] at noReset
      cases sound.ticks enabled with
      | stays active moves arrived lost status =>
        rw [status_look, show l.status = .error from h.status] at active
        cases active
      | arrives arrived moves status => simp [noReset.1] at arrived
      | loses lost retries => simp [noReset.2] at lost
      | retries arrived lost retries =>
        cases retries with
        | waits left early moves status => simp [spent] at left
        | givesUp _ moves status => exact ⟨status, fun _ => moves.backoff ▸ spent⟩
        | attempts left due answer moves status => simp [spent] at left
  | setCredentials identity secret =>
    obtain ⟨e, store, refused⟩ | ⟨c, store, made, adopted⟩ := setCredentials_cases identity secret l
    · show GivenUp (l.setCredentials identity secret).2
      rw [refused]
      exact ⟨h.status, h.spent⟩
    · have answer : Turn.answer ⟨.setCredentials identity secret, l⟩ = .ok () := congrArg Prod.fst adopted
      simp [Turn.isReset, answer, Except.isOk, Except.toBool] at noReset
  | clearCredentials =>
    have off : l.ensureOff = l := by
      rw [ensureOff, if_neg]
      simpa [Turn.turnsOff] using on
    show GivenUp l.clearCredentials.2
    obtain ⟨e, store, refused⟩ | ⟨store, cleared⟩ := clearCredentials_cases l
    · rw [refused, off]
      exact ⟨h.status, h.spent⟩
    · rw [cleared, off]
      exact ⟨h.status, h.spent⟩

/-! ## Runs -/

namespace Sample

/-- A step that reads the clock like this, with a radio that never gets through. -/
def step (readings : List UInt32) (op : Op) : Step Bench.Radio Store.Flash :=
  { radio := {}, board := { now := 0, later := readings, store := {} }, op }

/-- The link is turned on, and ticks come early, in time and late. -/
def steps : List (Step Bench.Radio Store.Flash) :=
  [ step [] (.setCredentials "home" "secret01"), step [0] .enable, step [9999] .tick,
    step [10001, 10002] .tick, step [20003, 20004] .tick, step [40002] .tick, step [40003, 40003] .tick,
    step [90000] .tick, step [] .disable ]

def board : Board Store.Flash := { now := 0, store := {} }

end Sample

end Telemetry.Link
