import Mathlib.Logic.Function.Iterate
import Telemetry.Proofs.Backoff
import Telemetry.Proofs.Link.Run

/-!
# Effects of the link manager

What the parts of an operation start and change. `Moves l starts b l'` says that on the way from `l` to `l'`
associations were started with the answers `starts`, each on a reading of its own, that the backoff has
become `b`, and that the set-up of the manager and its store were left alone. Each operation is described by the cases that it
distinguishes: `Retries` for an attempt to reconnect, `Ticks` for a tick, `Enables` for turning the link on.
-/

namespace Telemetry

open Transport

namespace Event

/-- The calls that start an association, each with its answer. -/
def associations (es : List Event) : List Bool :=
  es.filterMap fun
    | .associate _ _ accepted => some accepted
    | _ => none

@[simp] theorem associations_append (x y : List Event) :
    associations (x ++ y) = associations x ++ associations y := List.filterMap_append

end Event

namespace Link

variable {ρ σ : Type}

structure Moves (l : Link ρ σ) (starts : List Bool) (backoff : Backoff) (l' : Link ρ σ) : Prop where
  told : ∃ es, l'.trace = l.trace ++ es ∧ Event.associations es = starts
  backoff : l'.backoff = backoff
  credentials : l'.credentials = l.credentials
  enabled : l'.enabled = l.enabled
  clock : l'.toClock = Clock.look^[starts.length] l.toClock
  store : l'.store = l.store

variable {l l' l'' : Link ρ σ} {starts starts' : List Bool} {b b' : Backoff}

theorem Moves.now (h : Moves l [] b l') : l'.now = l.now := congrArg (·.now) h.clock

theorem Moves.refl (l : Link ρ σ) : Moves l [] l.backoff l :=
  ⟨⟨[], by simp, rfl⟩, rfl, rfl, rfl, rfl, rfl⟩

theorem Moves.trans (h : Moves l starts b l') (h' : Moves l' starts' b' l'') :
    Moves l (starts ++ starts') b' l'' := by
  obtain ⟨es, he, hs⟩ := h.told
  obtain ⟨es', he', hs'⟩ := h'.told
  refine ⟨⟨es ++ es', ?_, ?_⟩, h'.backoff, ?_, ?_, ?_, ?_⟩
  · rw [he', he, List.append_assoc]
  · rw [Event.associations_append, hs, hs']
  · exact h'.credentials.trans h.credentials
  · exact h'.enabled.trans h.enabled
  · rw [h'.clock, h.clock, ← Function.iterate_add_apply, List.length_append, Nat.add_comm]
  · exact h'.store.trans h.store

/-! ## Parts that start nothing -/

theorem moves_record (e : Event) (l : Link ρ σ) (h : Event.associations [e] = []) :
    Moves l [] l.backoff (l.record e) :=
  ⟨⟨[e], rfl, h⟩, rfl, rfl, rfl, rfl, rfl⟩

theorem moves_notify (notice : Option Status) (l : Link ρ σ) :
    Moves l [] l.backoff (l.notify notice) := by
  cases notice with
  | none => exact .refl l
  | some s => exact moves_record _ l rfl

theorem moves_become (s : Status) (l : Link ρ σ) : Moves l [] l.backoff (l.become s) :=
  have shown : Moves l [] l.backoff { l with indicator := (l.indicator.set s).1 } :=
    ⟨⟨[], by simp, rfl⟩, rfl, rfl, rfl, rfl, rfl⟩
  shown.trans (moves_notify _ _)

theorem moves_beginTick (l : Link ρ σ) : Moves l [] l.backoff l.beginTick :=
  ⟨⟨[], by simp [beginTick], rfl⟩, rfl, rfl, rfl, rfl, rfl⟩

theorem moves_endTick (l : Link ρ σ) : Moves l [] l.backoff l.endTick :=
  have shown : Moves l [] l.backoff { l with indicator := l.indicator.endTick.1 } :=
    ⟨⟨[], by simp, rfl⟩, rfl, rfl, rfl, rfl, rfl⟩
  shown.trans (moves_notify _ _)

@[simp] theorem status_look (l : Link ρ σ) : l.look.status = l.status := rfl

@[simp] theorem enabled_look (l : Link ρ σ) : l.look.enabled = l.enabled := rfl

@[simp] theorem backoff_look (l : Link ρ σ) : l.look.backoff = l.backoff := rfl

theorem moves_resetBackoff (l : Link ρ σ) : Moves l [] l.backoff.reset l.resetBackoff :=
  ⟨⟨[], by simp [resetBackoff], rfl⟩, rfl, rfl, rfl, rfl, rfl⟩

@[simp] theorem status_notify (notice : Option Status) (l : Link ρ σ) :
    (l.notify notice).status = l.status := by
  cases notice <;> rfl

@[simp] theorem status_become (s : Status) (l : Link ρ σ) : (l.become s).status = s := by
  unfold become
  rw [status_notify]
  exact Indicator.status_set s l.indicator

@[simp] theorem status_endTick (l : Link ρ σ) : l.endTick.status = l.status := by
  unfold endTick
  rw [status_notify]
  exact Indicator.status_endTick l.indicator

/-! ## Reconnecting -/

/-- The states that the start of an association leads to. -/
def IsStarted (s : Status) : Prop := s = .connecting ∨ s = .disconnected

/-- What comes of an attempt to reconnect that finds the backoff `b`. -/
inductive Retries (l : Link ρ σ) (b : Backoff) (l' : Link ρ σ) : Prop
  | waits (left : b.isSpent = false) (early : b.isEarly l.now = true) (moves : Moves l [] b l')
      (status : l'.status = l.status ∨ l'.status = .disconnected)
  | givesUp (spent : b.isSpent = true) (moves : Moves l [] b l') (status : l'.status = .error)
  | attempts (left : b.isSpent = false) (due : b.isEarly l.now = false) (answer : Bool)
      (moves : Moves l [answer] (b.recordAttempt l.now) l') (status : IsStarted l'.status)

/-- What is done before an attempt to reconnect starts nothing. -/
theorem Retries.after {k : Link ρ σ} (h : Retries l b l') (before : Moves k [] b' l)
    (shown : l.status = k.status ∨ l.status = .disconnected) : Retries k b l' := by
  cases h with
  | waits left early moves status =>
    rw [before.now] at early
    refine .waits left early (before.trans moves) ?_
    obtain kept | down := status
    · rwa [kept]
    · exact .inr down
  | givesUp spent moves status => exact .givesUp spent (before.trans moves) status
  | attempts left due answer moves status =>
    have moved := before.trans moves
    rw [before.now] at due moved
    exact .attempts left due answer moved status

/-- What is done after an attempt to reconnect starts nothing. -/
theorem Retries.before {k : Link ρ σ} (h : Retries l b l') (after : Moves l' [] l'.backoff k)
    (same : k.status = l'.status) : Retries l b k := by
  cases h with
  | waits left early moves status =>
    rw [moves.backoff] at after
    exact .waits left early (moves.trans after) (same ▸ status)
  | givesUp spent moves status =>
    rw [moves.backoff] at after
    exact .givesUp spent (moves.trans after) (same.trans status)
  | attempts left due answer moves status =>
    rw [moves.backoff] at after
    exact .attempts left due answer (moves.trans after) (same ▸ status)

/-! ## Credentials -/

/-- New credentials are adopted together with a fresh backoff, or only the store has changed. -/
theorem setCredentials_cases [Storage σ] (identity secret : String) (l : Link ρ σ) :
    (∃ e store, l.setCredentials identity secret = (.error e, { l with store })) ∨
    ∃ c store, Credentials.make identity secret = .ok c ∧
      l.setCredentials identity secret = (.ok (), { l with store, credentials := some c }.resetBackoff) := by
  unfold setCredentials
  split
  · next e _ => exact .inl ⟨e.failure, l.store, rfl⟩
  · next c made =>
    dsimp only
    split
    · next e _ => exact .inl ⟨.storage e, _, rfl⟩
    · exact .inr ⟨c, _, made, rfl⟩

section Radio

variable [Radio ρ]

theorem moves_dissociate (powerDown : Bool) (l : Link ρ σ) :
    Moves l [] l.backoff (l.dissociate powerDown) :=
  ⟨⟨[.dissociate powerDown], rfl, rfl⟩, rfl, rfl, rfl, rfl, rfl⟩

/-- The start of an association is what a backoff without attempts counts from. -/
theorem moves_connect (c : Credentials) (l : Link ρ σ) :
    ∃ answer, Moves l [answer]
      (if l.backoff.attempts = 0 then l.backoff.markStarted l.look.now else l.backoff) (l.connect c) := by
  let answer := Radio.associate c.identity c.secret l.radio
  let started : Link ρ σ :=
    { l.look with
      radio := answer.2
      startedAt := l.look.now
      backoff := if l.backoff.attempts = 0 then l.backoff.markStarted l.look.now else l.backoff }
  let recorded := started.record (.associate c.identity c.secret (accepted answer.1))
  have start : Moves l [accepted answer.1] started.backoff recorded :=
    ⟨⟨[.associate c.identity c.secret (accepted answer.1)], rfl, rfl⟩, rfl, rfl, rfl, rfl, rfl⟩
  exact ⟨accepted answer.1, start.trans (moves_become _ recorded)⟩

theorem isStarted_connect (c : Credentials) (l : Link ρ σ) : IsStarted (l.connect c).status := by
  unfold connect
  dsimp only
  rw [status_become]
  split
  · exact .inl rfl
  · exact .inr rfl

theorem retries_reconnectIfDue (h : l.credentials.isSome = true) :
    Retries l l.backoff l.reconnectIfDue := by
  obtain ⟨spent, poll⟩ | ⟨left, early, poll⟩ | ⟨left, due, poll⟩ := Backoff.poll_cases l.now l.backoff
  · rw [reconnectIfDue, poll]
    exact .givesUp spent (moves_become .error l) (status_become .error l)
  · rw [reconnectIfDue, poll]
    exact .waits left early (.refl l) (.inl rfl)
  · let polled : Link ρ σ := { l with backoff := l.backoff.recordAttempt l.now }
    have counted : Moves l [] (l.backoff.recordAttempt l.now) polled :=
      ⟨⟨[], by simp [polled], rfl⟩, rfl, rfl, rfl, rfl, rfl⟩
    rw [reconnectIfDue, poll]
    dsimp only
    split
    · next c _ =>
      obtain ⟨answer, connected⟩ := moves_connect c polled
      rw [if_neg (Backoff.attempts_recordAttempt_ne_zero l.now l.backoff)] at connected
      exact .attempts left due answer (counted.trans connected) (isStarted_connect c polled)
    · next none => simp [none] at h

/-! ## A tick -/

/-- Does a tick find the association standing that was being set up? -/
def arrives (l : Link ρ σ) : Bool := l.status == .connecting && Radio.isConnected l.radio

/-- Does a tick find the association gone that stood? -/
def isLost (l : Link ρ σ) : Bool := l.status == .connected && !Radio.isConnected l.radio

@[simp] theorem arrives_look (l : Link ρ σ) : l.look.arrives = l.arrives := rfl

@[simp] theorem isLost_look (l : Link ρ σ) : l.look.isLost = l.isLost := rfl

/-- What comes of a tick of a link that is on. -/
inductive Ticks (l l' : Link ρ σ) : Prop
  | stays (active : l.status.isActive = true) (moves : Moves l [] l.backoff l')
      (arrived : l.arrives = false) (lost : l.isLost = false) (status : l'.status = l.status)
  | arrives (arrived : l.arrives = true) (moves : Moves l [] l.backoff.reset l')
      (status : l'.status = .connected)
  | loses (lost : l.isLost = true) (retries : Retries l l.backoff.reset l')
  | retries (arrived : l.arrives = false) (lost : l.isLost = false) (retries : Retries l l.backoff l')

theorem ticks_advance (h : l.credentials.isSome = true) (on : l.status ≠ .disabled) :
    Ticks l l.advance := by
  cases hs : l.status with
  | connecting =>
    have lost : l.isLost = false := by simp [isLost, hs]
    simp only [advance, hs]
    split
    · next up =>
      have moves := (moves_become .connected l).trans (moves_resetBackoff _)
      rw [(moves_become .connected l).backoff] at moves
      exact .arrives (by simp [arrives, hs, up]) moves (status_become .connected l)
    · next down =>
      have arrived : l.arrives = false := by simp [arrives, down]
      split
      · have before : Moves l [] l.backoff ((l.dissociate false).become .disconnected) :=
          (moves_dissociate false l).trans (moves_become .disconnected _)
        have retries := retries_reconnectIfDue (before.credentials ▸ h)
        rw [before.backoff] at retries
        exact .retries arrived lost (retries.after before (.inr (status_become _ _)))
      · exact .stays (by rw [hs]; rfl) (.refl l) arrived lost rfl
  | connected =>
    have arrived : l.arrives = false := by simp [arrives, hs]
    simp only [advance, hs]
    split
    · next up => exact .stays (by rw [hs]; rfl) (.refl l) arrived (by simp [isLost, up]) rfl
    · next down =>
      have shown := moves_become .disconnected l
      have before := shown.trans (moves_resetBackoff _)
      have retries := retries_reconnectIfDue (before.credentials ▸ h)
      rw [before.backoff, shown.backoff] at retries
      rw [shown.backoff] at before
      exact .loses (by simp [isLost, hs, down]) (retries.after before (.inr (status_become _ _)))
  | disconnected | error =>
    have arrived : l.arrives = false := by simp [arrives, hs]
    have lost : l.isLost = false := by simp [isLost, hs]
    simp only [advance, hs]
    exact .retries arrived lost (retries_reconnectIfDue h)
  | disabled => exact absurd hs on

/-- A tick acts on the reading that it takes at its beginning. -/
theorem ticks_tick (on : l.enabled = true) (h : l.credentials.isSome = true)
    (shown : l.status ≠ .disabled) : Ticks l.look l.tick := by
  have begun : Moves l.look [] l.backoff l.beginTick.look := moves_beginTick l.look
  rw [tick, if_pos on]
  have ended := moves_endTick l.beginTick.look.advance
  have same := status_endTick l.beginTick.look.advance
  cases ticks_advance (l := l.beginTick.look) h shown with
  | stays active moves arrived lost status =>
    rw [moves.backoff] at ended
    exact .stays active ((begun.trans moves).trans ended) arrived lost (same.trans status)
  | arrives arrived moves status =>
    rw [moves.backoff] at ended
    exact .arrives arrived ((begun.trans moves).trans ended) (same.trans status)
  | loses lost retries =>
    exact .loses lost ((retries.after begun (.inl rfl)).before ended same)
  | retries arrived lost retries =>
    exact .retries arrived lost ((retries.after begun (.inl rfl)).before ended same)

/-- Whatever comes of a tick, it leaves the set-up alone. -/
theorem Ticks.exists_moves (h : Ticks l l') : ∃ starts b, Moves l starts b l' := by
  have retried : ∀ {b}, Retries l b l' → ∃ starts b, Moves l starts b l' := by
    rintro b (⟨_, _, moves, _⟩ | ⟨_, moves, _⟩ | ⟨_, _, answer, moves, _⟩)
    · exact ⟨_, _, moves⟩
    · exact ⟨_, _, moves⟩
    · exact ⟨_, _, moves⟩
  cases h with
  | stays _ moves | arrives _ moves => exact ⟨_, _, moves⟩
  | loses _ retries | retries _ _ retries => exact retried retries

/-! ## Turning on and off -/

section Storage

variable [Storage σ]

/-- The link with the intent to be on, also in the store. -/
def turnOn (l : Link ρ σ) : Link ρ σ := { l with enabled := true }.persist true

/-- The link with the intent to be off, also in the store. -/
def turnOff (l : Link ρ σ) : Link ρ σ := { l with enabled := false }.persist false

/-- Is the link on, and is an association being set up or standing? -/
def isBusy (l : Link ρ σ) : Bool := l.enabled && l.status.isActive

/-- What comes of turning the link on. -/
inductive Enables (l l' : Link ρ σ) : Prop
  | busy (busy : l.isBusy = true) (same : l' = l)
  | refuses (idle : l.isBusy = false) (missing : l.credentials = none) (moves : Moves l [] l.backoff l')
      (status : l'.status = .error)
  | starts (idle : l.isBusy = false) (found : l.credentials.isSome = true) (answer : Bool)
      (moves : Moves l.turnOn [answer] (l.backoff.reset.markStarted l.look.now) l') (status : IsStarted l'.status)

theorem enable_eq (l : Link ρ σ) :
    l.enable =
      if l.isBusy then l
      else
        match l.credentials with
        | none => l.become .error
        | some c => l.turnOn.resetBackoff.connect c := rfl

theorem enables_enable (l : Link ρ σ) : Enables l l.enable := by
  rw [enable_eq]
  split
  · next busy => exact .busy busy rfl
  · next idle =>
    replace idle : l.isBusy = false := by simpa using idle
    cases found : l.credentials with
    | none => exact .refuses idle found (moves_become .error l) (status_become .error l)
    | some c =>
      obtain ⟨answer, connected⟩ := moves_connect c l.turnOn.resetBackoff
      exact .starts idle (by simp [found]) answer ((moves_resetBackoff l.turnOn).trans connected)
        (isStarted_connect c _)

/-- At the start the link is turned on, or left alone. -/
theorem init_cases (l : Link ρ σ) : Enables l l.init ∨ l.init = l := by
  unfold init
  split
  · exact .inl (enables_enable l)
  · exact .inr rfl

theorem moves_disable (l : Link ρ σ) : Moves l.turnOff [] l.backoff l.disable :=
  (moves_dissociate true l.turnOff).trans (moves_become .disabled _)

@[simp] theorem status_disable (l : Link ρ σ) : l.disable.status = .disabled :=
  status_become .disabled _

/-- The link, turned off if it was on. -/
def ensureOff (l : Link ρ σ) : Link ρ σ := if l.enabled then l.disable else l

@[simp] theorem enabled_ensureOff (l : Link ρ σ) : l.ensureOff.enabled = false := by
  unfold ensureOff
  split
  · exact (moves_disable l).enabled
  · next off => simpa using off

/-- The credentials are forgotten, or only the store has changed since the link is off. -/
theorem clearCredentials_cases (l : Link ρ σ) :
    (∃ e store, l.clearCredentials = (.error e, { l.ensureOff with store })) ∨
    ∃ store, l.clearCredentials = (.ok (), { l.ensureOff with store, credentials := none }) := by
  unfold clearCredentials
  dsimp only
  split
  · next e _ => exact .inl ⟨.storage e, _, rfl⟩
  · exact .inr ⟨_, rfl⟩

end Storage

end Radio
end Link
end Telemetry
