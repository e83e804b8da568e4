import Mathlib.Algebra.Group.Nat.Defs
import Telemetry.Backoff

/-!
# The pace of a backoff

A backoff with a budget `n` makes at most `n` attempts, and the wait before each doubles up to the ceiling.
`Tracks p starts b` says that `b` has come from a reset with these starts and no others. `Paced p n starts b` adds what
is true of the starts under a budget. Each operation on the backoff extends the starts.

A backoff goes by the readings on which starts are decided. The call that makes a start may follow on a later
reading; the time from the one to the other is the lag of the call.
-/

namespace Telemetry.Backoff

/-- The start of a connection. -/
structure Start where
  /-- Is it an attempt, which the budget pays for? -/
  counted : Bool
  /-- The reading on which the start is decided. -/
  time : UInt32
  deriving DecidableEq, Repr

/-- The call that makes a start. -/
structure Call extends Start where
  /-- The reading on which the call is made. -/
  begun : UInt32
  deriving DecidableEq, Repr

/-- The start, dated by its call. -/
def Call.made (c : Call) : Start := { c.toStart with time := c.begun }

/-- The milliseconds from the decision to the call. -/
def Call.lag (c : Call) : Nat := (Clock.elapsed c.begun c.time).toNat

/-- The number of attempts among the starts. -/
def attemptsIn (starts : List Start) : Nat := starts.countP (·.counted)

/-- The wait in milliseconds that is due after `k` attempts. -/
def Policy.wait (p : Policy) (k : Nat) : Nat := min (p.base.toNat * 2 ^ k) p.ceiling.toNat

/-- Nothing has been started, or the wait since the last start has passed. -/
def IsDue (p : Policy) (starts : List Start) (now : UInt32) : Prop :=
  ∀ last ∈ starts.getLast?, p.wait (attemptsIn starts) ≤ (Clock.elapsed now last.time).toNat

instance (p : Policy) (starts : List Start) (now : UInt32) : Decidable (IsDue p starts now) :=
  inferInstanceAs (Decidable (∀ last ∈ starts.getLast?,
    p.wait (attemptsIn starts) ≤ (Clock.elapsed now last.time).toNat))

/-- Each attempt is made at the earliest when the wait since the start before it has passed. -/
def Spaced (p : Policy) (starts : List Start) : Prop :=
  ∀ earlier last next later, starts = earlier ++ last :: next :: later → next.counted = true →
    p.wait (attemptsIn (earlier ++ [last])) ≤ (Clock.elapsed next.time last.time).toNat

/-- Counted from the call before it, an attempt is decided too early by no more than the lag of that call. -/
def SpacedCalls (p : Policy) (calls : List Call) : Prop :=
  ∀ earlier last next later, calls = earlier ++ last :: next :: later → next.counted = true →
    p.wait (attemptsIn ((earlier ++ [last]).map (·.toStart))) ≤
      (Clock.elapsed next.time last.begun).toNat + last.lag

/-- The starts that led from a reset to `b`. The counter of attempts stops at its greatest value. -/
structure Tracks (p : Policy) (starts : List Start) (b : Backoff) : Prop where
  policy : b.policy = p
  attempts : b.attempts.toNat = min (attemptsIn starts) 4294967295
  last : b.last = starts.getLast?.map (·.time)
  interval : b.interval.toNat = p.wait (attemptsIn starts)

/-- The starts that led from a reset to `b`, under a policy whose budget is `n`. -/
structure Paced (p : Policy) (n : UInt32) (starts : List Start) (b : Backoff) : Prop where
  policy : b.policy = p
  attempts : b.attempts.toNat = attemptsIn starts
  bounded : attemptsIn starts ≤ n.toNat
  last : b.last = starts.getLast?.map (·.time)
  interval : b.interval.toNat = p.wait (attemptsIn starts)
  spaced : Spaced p starts

variable {p : Policy} {n now : UInt32} {starts : List Start} {b : Backoff}

@[simp] theorem attemptsIn_nil : attemptsIn [] = 0 := rfl

@[simp] theorem attemptsIn_append (x y : List Start) :
    attemptsIn (x ++ y) = attemptsIn x + attemptsIn y :=
  List.countP_append

theorem base_le_ceiling (h : p.check = .ok ()) : p.base.toNat ≤ p.ceiling.toNat := by
  unfold Policy.check at h
  split at h
  · cases h
  · split at h
    · cases h
    · next notBelow => exact UInt32.le_iff_toNat_le.1 (UInt32.not_lt.1 notBelow)

theorem toNat_min (x y : UInt32) : (min x y).toNat = min x.toNat y.toNat := by
  have : min x y = if x ≤ y then x else y := rfl
  rw [this]
  split
  · next h => exact (Nat.min_eq_left (UInt32.le_iff_toNat_le.1 h)).symm
  · next h => exact (Nat.min_eq_right (Nat.le_of_lt (UInt32.lt_iff_toNat_lt.1 (UInt32.not_le.1 h)))).symm

/-- Doubling the interval up to the ceiling yields the wait after one more attempt. -/
theorem toNat_doubled (x : UInt32) {k : Nat} (h : x.toNat = p.wait k) :
    (min (double x) p.ceiling).toNat = p.wait (k + 1) := by
  have := p.ceiling.toNat_lt
  rw [toNat_min, toNat_double, h]
  unfold Policy.wait
  rw [Nat.pow_succ, ← Nat.mul_assoc]
  omega

/-- What a question for an attempt is answered. -/
theorem poll_cases (now : UInt32) (b : Backoff) :
    (b.isSpent = true ∧ b.poll now = (.spent, b)) ∨
    (b.isSpent = false ∧ b.isEarly now = true ∧ b.poll now = (.wait, b)) ∨
    (b.isSpent = false ∧ b.isEarly now = false ∧
      b.poll now = (.attempt (b.recordAttempt now).attempts, b.recordAttempt now)) := by
  unfold poll
  cases b.isSpent <;> cases b.isEarly now <;> simp

theorem attempts_recordAttempt_ne_zero (now : UInt32) (b : Backoff) :
    (b.recordAttempt now).attempts ≠ 0 := by
  intro h
  have counted : (succ b.attempts).toNat = 0 := congrArg UInt32.toNat h
  rw [toNat_succ] at counted
  omega

/-! ## The starts since a reset -/

theorem tracks_reset (h : p.check = .ok ()) (policy : b.policy = p) : Tracks p [] b.reset := by
  refine ⟨policy, rfl, rfl, ?_⟩
  have := base_le_ceiling h
  rw [← policy] at this ⊢
  simp [reset, ofPolicy, Policy.wait, this]

/-- A start that is not counted is not held back by the wait, but counts for the next attempt. -/
theorem Tracks.markStarted (h : Tracks p starts b) (now : UInt32) :
    Tracks p (starts ++ [⟨false, now⟩]) (b.markStarted now) := by
  have none : attemptsIn (starts ++ [⟨false, now⟩]) = attemptsIn starts := by simp [attemptsIn]
  refine ⟨h.policy, ?_, by simp [Backoff.markStarted], ?_⟩
  · rw [none]
    exact h.attempts
  · rw [none]
    exact h.interval

theorem Tracks.recordAttempt (h : Tracks p starts b) (now : UInt32) :
    Tracks p (starts ++ [⟨true, now⟩]) (b.recordAttempt now) := by
  have one : attemptsIn (starts ++ [⟨true, now⟩]) = attemptsIn starts + 1 := by simp [attemptsIn]
  refine ⟨h.policy, ?_, by simp [Backoff.recordAttempt], ?_⟩
  · have counted : (succ b.attempts).toNat = min (attemptsIn starts + 1) 4294967295 := by
      rw [toNat_succ, h.attempts]
      omega
    rw [one]
    exact counted
  · rw [one]
    have doubled := toNat_doubled b.interval (p := p) h.interval
    rw [← h.policy] at doubled ⊢
    exact doubled

/-- The backoff knows whether the next attempt is due. -/
theorem Tracks.isEarly_iff (h : Tracks p starts b) : b.isEarly now = false ↔ IsDue p starts now := by
  rw [isEarly, h.last, IsDue, ← h.interval]
  cases starts.getLast? with
  | none => simp
  | some last => simp [UInt32.lt_iff_toNat_lt]

/-! ## Calls -/

/-- From the decision to now no more time has passed than the lag and the time since the call. -/
theorem elapsed_le_lag (now : UInt32) (c : Call) :
    (Clock.elapsed now c.time).toNat ≤ (Clock.elapsed now c.begun).toNat + c.lag := by
  have split : Clock.elapsed now c.time = Clock.elapsed now c.begun + Clock.elapsed c.begun c.time := by
    unfold Clock.elapsed
    grind
  rw [split, UInt32.toNat_add]
  exact Nat.mod_le _ _

theorem Spaced.calls {calls : List Call} (h : Spaced p (calls.map (·.toStart))) : SpacedCalls p calls := by
  intro earlier last next later split counted
  have spaced := h (earlier.map (·.toStart)) last.toStart next.toStart (later.map (·.toStart))
    (by simp [split]) counted
  rw [List.map_append]
  exact Nat.le_trans spaced (elapsed_le_lag next.time last)

theorem Spaced.snoc (h : Spaced p starts) (next : Start) (due : next.counted = true → IsDue p starts next.time) :
    Spaced p (starts ++ [next]) := by
  intro earlier last next' rest split counted
  obtain rfl | ⟨rest, e, rfl⟩ := List.eq_nil_or_concat rest
  · have : starts ++ [next] = (earlier ++ [last]) ++ [next'] := by simpa using split
    obtain ⟨rfl, same⟩ := List.append_inj' this rfl
    obtain rfl := List.singleton_inj.1 same
    exact due counted last (by simp)
  · have : starts ++ [next] = (earlier ++ last :: next' :: rest) ++ [e] := by simpa using split
    obtain ⟨rfl, -⟩ := List.append_inj' this rfl
    exact h earlier last next' rest rfl counted

/-- Under a budget the counter of attempts does not come to its end. -/
theorem Paced.tracks (h : Paced p n starts b) : Tracks p starts b := by
  have := n.toNat_lt
  have := h.bounded
  refine ⟨h.policy, ?_, h.last, h.interval⟩
  rw [h.attempts]
  omega

theorem Tracks.paced (h : Tracks p starts b) (bounded : attemptsIn starts ≤ n.toNat) (spaced : Spaced p starts) :
    Paced p n starts b := by
  have := n.toNat_lt
  refine ⟨h.policy, ?_, bounded, h.last, h.interval, spaced⟩
  rw [h.attempts]
  omega

theorem Paced.markStarted (h : Paced p n starts b) (now : UInt32) :
    Paced p n (starts ++ [⟨false, now⟩]) (b.markStarted now) := by
  refine (h.tracks.markStarted now).paced ?_ (h.spaced.snoc _ nofun)
  have none : attemptsIn (starts ++ [⟨false, now⟩]) = attemptsIn starts := by simp [attemptsIn]
  rw [none]
  exact h.bounded

theorem Paced.isSpent_iff (h : Paced p n starts b) (budget : p.budget = some n) :
    b.isSpent = true ↔ attemptsIn starts = n.toNat := by
  have bounded := h.bounded
  rw [isSpent, h.policy, budget]
  simp only [decide_eq_true_eq, UInt32.le_iff_toNat_le, h.attempts]
  omega

theorem Paced.recordAttempt (h : Paced p n starts b) (budget : p.budget = some n)
    (left : b.isSpent = false) (due : b.isEarly now = false) :
    Paced p n (starts ++ [⟨true, now⟩]) (b.recordAttempt now) := by
  refine (h.tracks.recordAttempt now).paced ?_ (h.spaced.snoc _ fun _ => h.tracks.isEarly_iff.1 due)
  have := h.bounded
  have := mt (h.isSpent_iff budget).2 (by simp [left])
  have one : attemptsIn (starts ++ [⟨true, now⟩]) = attemptsIn starts + 1 := by simp [attemptsIn]
  omega

end Telemetry.Backoff
