import Mathlib.Logic.Function.Iterate
import Telemetry.Proofs.Backoff
import Telemetry.Proofs.Broker.Log

/-!
# How the broker manager reconnects

`Moves b answers k b'` says that on the way from `b` to `b'` sessions were requested with these answers, each on a
reading of its own, and that the backoff has become `k`. `Ticks` lists what can come of a tick with the link up.
-/

namespace Telemetry

open Transport

namespace Event

/-- The requests for a session, each with its answer. -/
def openings (es : List Event) : List Bool :=
  es.filterMap fun
    | .openSession _ accepted => some accepted
    | _ => none

@[simp] theorem openings_append (x y : List Event) : openings (x ++ y) = openings x ++ openings y :=
  List.filterMap_append

theorem openings_of_closed {es : List Event} (closed : ∀ e ∈ es, ¬ e.IsOpening) : openings es = [] := by
  refine List.filterMap_eq_nil_iff.2 fun e he => ?_
  have := closed e he
  cases e with
  | openSession => exact absurd trivial this
  | _ => rfl

end Event

namespace Broker

variable {β σ : Type}

variable {b b' b'' c : Broker β σ} {answers answers' : List Bool} {k k' : Backoff}

/-! ## Requests and the backoff -/

structure Moves (b : Broker β σ) (answers : List Bool) (k : Backoff) (b' : Broker β σ) : Prop where
  told : ∃ es, b'.trace = b.trace ++ es ∧ Event.openings es = answers
  backoff : b'.backoff = k
  clock : b'.toClock = Clock.look^[answers.length] b.toClock
  endpoint : b'.endpoint = b.endpoint

theorem Moves.now (h : Moves b [] k b') : b'.now = b.now := congrArg (·.now) h.clock

theorem Moves.trans (h : Moves b answers k b') (h' : Moves b' answers' k' b'') :
    Moves b (answers ++ answers') k' b'' := by
  obtain ⟨es, he, hs⟩ := h.told
  obtain ⟨es', he', hs'⟩ := h'.told
  refine ⟨⟨es ++ es', ?_, ?_⟩, h'.backoff, ?_, h'.endpoint.trans h.endpoint⟩
  · rw [he', he, List.append_assoc]
  · rw [Event.openings_append, hs, hs']
  · rw [h'.clock, h.clock, ← Function.iterate_add_apply, List.length_append, Nat.add_comm]

theorem Outward.moves (h : Outward b b') (logs : Logs (¬ ·.IsOpening) b b') : Moves b [] b.backoff b' := by
  obtain ⟨es, trace, closed⟩ := logs
  exact ⟨⟨es, trace, Event.openings_of_closed closed⟩, h.backoff, h.eq (·.toClock), h.eq (·.endpoint)⟩

/-- What leaves the trace alone. -/
theorem Moves.of_same (trace : b'.trace = b.trace) (backoff : b'.backoff = k) (clock : b'.toClock = b.toClock)
    (endpoint : b'.endpoint = b.endpoint) : Moves b [] k b' :=
  ⟨⟨[], by simp [trace], rfl⟩, backoff, clock, endpoint⟩

theorem moves_notify (notice : Option Status) (b : Broker β σ) : Moves b [] b.backoff (b.notify notice) := by
  cases notice with
  | none => exact .of_same rfl rfl rfl rfl
  | some s => exact ⟨⟨[.brokerNotice s], rfl, rfl⟩, rfl, rfl, rfl⟩

theorem moves_become (s : Status) (b : Broker β σ) : Moves b [] b.backoff (b.become s) := by
  have shown : Moves b [] b.backoff { b with indicator := (b.indicator.set s).1 } := .of_same rfl rfl rfl rfl
  exact shown.trans (moves_notify _ _)

theorem moves_beginTick (b : Broker β σ) : Moves b [] b.backoff b.beginTick := .of_same rfl rfl rfl rfl

theorem moves_endTick (b : Broker β σ) : Moves b [] b.backoff b.endTick := by
  have shown : Moves b [] b.backoff { b with indicator := b.indicator.endTick.1 } := .of_same rfl rfl rfl rfl
  exact shown.trans (moves_notify _ _)

theorem moves_resetBackoff (b : Broker β σ) : Moves b [] b.backoff.reset b.resetBackoff := .of_same rfl rfl rfl rfl

section Client

variable [Client β]

theorem moves_closeSession (b : Broker β σ) : Moves b [] b.backoff b.closeSession :=
  (outward_closeSession b).moves (logs_closeSession admitsRest_closed.admits b)

theorem moves_drain (b : Broker β σ) : Moves b [] b.backoff b.drain :=
  (outward_drain b).moves (logs_drain (fun _ _ => id) b fun _ _ _ => id)

/-- A request is what a backoff without attempts counts from. -/
theorem moves_openSession (e : Endpoint) (b : Broker β σ) :
    ∃ answer, Moves b [answer] (if b.backoff.attempts = 0 then b.backoff.markStarted b.look.now else b.backoff)
      (b.openSession e) := by
  let answer := accepted (Client.connect (b.connectOptions e) b.client).1
  have asked : Moves b [answer] (b.request e).backoff (b.request e) := ⟨⟨[_], rfl, rfl⟩, rfl, rfl, rfl⟩
  exact ⟨answer, asked.trans (moves_become _ _)⟩

/-! ## A tick with the link up -/

/-- Does a tick find the session standing that was being set up? -/
def arrives (b : Broker β σ) : Bool := b.status == .connecting && Client.isConnected b.client

/-- Does a tick find the session gone that stood? -/
def isLost (b : Broker β σ) : Bool := b.status == .connected && !Client.isConnected b.client

/-- Does a tick find that the session should have been set up by now? -/
def isOverdue (b : Broker β σ) : Bool :=
  b.status == .connecting && !Client.isConnected b.client &&
    b.settings.connectionTimeoutMs < Clock.elapsed b.now b.startedAt

/-- Does a tick find that there is no session, or give it up? -/
def seeks (b : Broker β σ) : Bool := b.isOverdue || b.isLost || b.status == .disconnected || b.status == .error

/-- The backoff that a tick works with. -/
def renewed (b : Broker β σ) : Backoff := if b.arrives || b.isLost then b.backoff.reset else b.backoff

/-- What comes of a tick of a manager that is on. -/
inductive Ticks (b b' : Broker β σ) : Prop
  | settled (rests : b.seeks = false) (moves : Moves b [] b.renewed b') (active : b'.status.isActive = true)
  | waits (seeks : b.seeks = true) (early : b.renewed.isEarly b.now = true) (moves : Moves b [] b.renewed b')
      (shown : b.status = .error ∨ b'.status = .disconnected)
  | attempts (seeks : b.seeks = true) (due : b.renewed.isEarly b.now = false) (answer : Bool)
      (moves : Moves b [answer] (b.renewed.recordAttempt b.now) b')
      (shown : b'.status = .connecting ∨ b'.status = .disconnected)

/-- An attempt to reconnect, after what a tick has done before. Without a budget the attempts are never spent. -/
theorem ticks_reconnectIfDue (unlimited : b.backoff.policy.budget = none) (found : b.endpoint.isSome = true)
    (seeks : b.seeks = true) (before : Moves b [] b.renewed c) (shown : b.status = .error ∨ c.status = .disconnected) :
    Ticks b c.reconnectIfDue := by
  have policy : b.renewed.policy = b.backoff.policy := by
    unfold renewed
    split <;> rfl
  have unspent : c.backoff.isSpent = false := by
    rw [before.backoff, Backoff.isSpent, policy, unlimited]
  unfold reconnectIfDue
  obtain ⟨spent, -⟩ | ⟨-, early, poll⟩ | ⟨-, due, poll⟩ := Backoff.poll_cases c.now c.backoff
  · simp [spent] at unspent
  · rw [before.backoff, before.now] at early
    rw [poll]
    exact .waits seeks early before shown
  · let polled : Broker β σ := { c with backoff := c.backoff.recordAttempt c.now }
    have counted : Moves c [] polled.backoff polled := .of_same rfl rfl rfl rfl
    rw [poll]
    dsimp only
    unfold connect
    split
    · next e _ =>
      obtain ⟨answer, opened⟩ := moves_openSession e polled
      rw [if_neg (Backoff.attempts_recordAttempt_ne_zero c.now c.backoff)] at opened
      have moves := before.trans (counted.trans opened)
      rw [show polled.backoff = c.backoff.recordAttempt c.now from rfl, before.backoff, before.now] at moves
      rw [before.backoff, before.now] at due
      refine .attempts seeks due answer moves ?_
      rw [openSession_eq, status_become]
      exact requestStatus_cases e polled
    · next missing => simp [before.endpoint.symm.trans missing] at found

theorem ticks_advance (unlimited : b.backoff.policy.budget = none) (found : b.endpoint.isSome = true)
    (on : b.status ≠ .disabled) : Ticks b b.advance := by
  cases hs : b.status with
  | connecting =>
    have lost : b.isLost = false := by simp [isLost, hs]
    simp only [advance, hs]
    split
    · next up =>
      have arrived : b.arrives = true := by simp [arrives, hs, up]
      have rests : b.seeks = false := by simp [seeks, isOverdue, lost, hs, up]
      let joined : Broker β σ := (b.become .connected).resetBackoff
      let announced := joined.send (joined.presence true)
      have arrival : Moves b [] b.renewed joined := by
        have moves := (moves_become .connected b).trans (moves_resetBackoff _)
        rwa [(moves_become .connected b).backoff, show b.backoff.reset = b.renewed by simp [renewed, arrived]] at moves
      have sent : Moves joined [] joined.backoff announced.2 := (outward_send _ _).moves (logs_send (fun _ => id) _)
      have moves := arrival.trans (sent.trans (moves_drain announced.2))
      rw [sent.backoff, arrival.backoff] at moves
      have shown : announced.2.drain.status = .connected := by
        rw [(outward_drain announced.2).status, (outward_send _ joined).status]
        exact status_become .connected b
      exact .settled rests moves (by rw [shown]; rfl)
    · next down =>
      have arrived : b.arrives = false := by simp [arrives, down]
      have same : b.renewed = b.backoff := by simp [renewed, arrived, lost]
      split
      · next late =>
        have seeks : b.seeks = true := by simp [seeks, isOverdue, hs, down, late]
        have before := (moves_closeSession b).trans (moves_become .disconnected _)
        rw [(moves_closeSession b).backoff, ← same] at before
        exact ticks_reconnectIfDue unlimited found seeks before (.inr (status_become _ _))
      · next early =>
        have rests : b.seeks = false := by simp [seeks, isOverdue, lost, hs, early]
        exact .settled rests (.of_same rfl same.symm rfl rfl) (by rw [hs]; rfl)
  | connected =>
    have arrived : b.arrives = false := by simp [arrives, hs]
    simp only [advance, hs]
    split
    · next up =>
      have lost : b.isLost = false := by simp [isLost, up]
      have rests : b.seeks = false := by simp [seeks, isOverdue, lost, hs]
      have moves := moves_drain b
      rw [show b.backoff = b.renewed by simp [renewed, arrived, lost]] at moves
      exact .settled rests moves (by rw [(outward_drain b).status, hs]; rfl)
    · next down =>
      have lost : b.isLost = true := by simp [isLost, hs, down]
      have before := (moves_become .disconnected b).trans (moves_resetBackoff _)
      rw [(moves_become .disconnected b).backoff, show b.backoff.reset = b.renewed by simp [renewed, lost]] at before
      exact ticks_reconnectIfDue unlimited found (by simp [seeks, lost]) before (.inr (status_become _ _))
  | disconnected | error =>
    have same : b.backoff = b.renewed := by simp [renewed, arrives, isLost, hs]
    simp only [advance, hs]
    exact ticks_reconnectIfDue unlimited found (by simp [seeks, hs]) (.of_same rfl same rfl rfl) (by simp [hs])
  | disabled => exact absurd hs on

/-- A tick with the link up acts on the reading that it takes at its beginning. -/
theorem ticks_tick (on : b.enabled = true) (unlimited : b.backoff.policy.budget = none)
    (found : b.endpoint.isSome = true) (shown : b.status ≠ .disabled) : Ticks b.look (b.tick true) := by
  have begun : Moves b.look [] b.backoff b.beginTick.look := moves_beginTick b.look
  have ended := moves_endTick b.beginTick.look.advance
  have same := status_endTick b.beginTick.look.advance
  rw [tick, if_pos on, if_pos rfl]
  cases ticks_advance (b := b.beginTick.look) unlimited found shown with
  | settled rests moves active =>
    rw [moves.backoff] at ended
    exact .settled rests (begun.trans (moves.trans ended)) (by rwa [same])
  | waits seeks early moves shown =>
    rw [moves.backoff] at ended
    exact .waits seeks early (begun.trans (moves.trans ended)) (by rwa [same])
  | attempts seeks due answer moves shown =>
    rw [moves.backoff] at ended
    exact .attempts seeks due answer (begun.trans (moves.trans ended)) (by rwa [same])

/-! ## Turning on and off -/

variable [Storage σ]

/-- The manager is on already, cannot be turned on, or starts with a fresh backoff. -/
theorem enable_cases (linkUp : Bool) (b : Broker β σ) :
    (b.enabled = true ∧ b.enable linkUp = b) ∨ (b.endpoint = none ∧ b.enable linkUp = b.become .error) ∨
      ∃ e, b.endpoint = some e ∧ (b.enabled = true → b.status = .disabled) ∧ b.enable linkUp =
        if linkUp then b.turnOn.resetBackoff.openSession e else b.turnOn.resetBackoff.become .error := by
  unfold enable
  split
  · next busy => exact .inl ⟨(Bool.and_eq_true_iff.1 busy).1, rfl⟩
  · next idle =>
    obtain missing | ⟨e, found⟩ := Option.eq_none_or_eq_some b.endpoint
    · exact .inr (.inl ⟨missing, if_pos (by simp [isConfigured, missing])⟩)
    · refine .inr (.inr ⟨e, found, fun on => by simpa [on] using idle, ?_⟩)
      have opens : b.turnOn.resetBackoff.connect = b.turnOn.resetBackoff.openSession e := by
        rw [connect, show b.turnOn.resetBackoff.endpoint = some e from found]
      rw [if_neg (by simp [isConfigured, found]), ← opens]
      rfl

theorem init_cases (linkUp : Bool) (b : Broker β σ) : b.init linkUp = b.enable linkUp ∨ b.init linkUp = b := by
  unfold init
  split
  · exact .inl rfl
  · exact .inr rfl

/-- A manager that is off after it was to be turned on has started nothing. -/
theorem moves_enable_of_off {linkUp : Bool} (off : (b.enable linkUp).enabled = false) :
    Moves b [] b.backoff (b.enable linkUp) := by
  obtain ⟨-, same⟩ | ⟨-, refused⟩ | ⟨e, -, -, started⟩ := enable_cases linkUp b
  · rw [same]
    exact .of_same rfl rfl rfl rfl
  · rw [refused]
    exact moves_become .error b
  · rw [started] at off
    split at off
    · simp [(same_openSession e _).enabled, turnOn, persist, resetBackoff] at off
    · simp [(same_become .error _).enabled, turnOn, persist, resetBackoff] at off

theorem backoff_disable (b : Broker β σ) : b.disable.backoff = b.backoff := by
  let off : Broker β σ := { b with enabled := false }
  have outward : Outward off off.closeSession.discard := (outward_closeSession off).trans (outward_discard _)
  rw [disable, (moves_become .disabled _).backoff]
  exact outward.backoff

theorem backoff_ensureOff (b : Broker β σ) : b.ensureOff.backoff = b.backoff := by
  unfold ensureOff
  split
  · exact backoff_disable b
  · rfl

end Client

end Broker
end Telemetry
