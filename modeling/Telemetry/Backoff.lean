import Telemetry.Clock

/-!
# Reconnection backoff

After `k` attempts the next one has to wait `min (base * 2 ^ k) ceiling` milliseconds. A budget, if
there is one, bounds the number of attempts. `reset` starts over, and the first attempt after it
is made at once.
-/

namespace Telemetry

/-- The shape of a backoff. -/
structure Backoff.Policy where
  base : UInt32
  ceiling : UInt32
  /-- The greatest number of attempts; unlimited if absent. -/
  budget : Option UInt32
  deriving DecidableEq, Repr

/-- What makes a policy unusable. -/
inductive Backoff.PolicyError
  | zeroBase
  | ceilingBelowBase (ceiling base : UInt32)
  deriving DecidableEq, Repr

structure Backoff where
  policy : Backoff.Policy
  /-- When the last attempt or counted start was made. -/
  last : Option UInt32
  interval : UInt32
  attempts : UInt32
  deriving DecidableEq, Repr

/-- The answer to the question whether to attempt now. -/
inductive Backoff.Verdict
  | wait
  /-- Attempt now; this is the attempt's number. -/
  | attempt (number : UInt32)
  | spent
  deriving DecidableEq, Repr

namespace Backoff

def PolicyError.message : PolicyError → String
  | zeroBase => "reconnect_interval_ms must be greater than 0"
  | ceilingBelowBase ceiling base =>
    s!"max_reconnect_interval_ms ({ceiling}) is below reconnect_interval_ms ({base})"

def Policy.check (p : Policy) : Except PolicyError Unit :=
  if p.base = 0 then .error .zeroBase
  else if p.ceiling < p.base then .error (.ceilingBelowBase p.ceiling p.base)
  else .ok ()

/-- Twice `x`, or the greatest value if that does not fit. -/
def double (x : UInt32) : UInt32 := if x < 0x80000000 then 2 * x else 0xFFFFFFFF

/-- One more than `x`, stopping at the greatest value. -/
def succ (x : UInt32) : UInt32 := if x < 0xFFFFFFFF then x + 1 else x

def ofPolicy (p : Policy) : Backoff := { policy := p, last := none, interval := p.base, attempts := 0 }

def reset (b : Backoff) : Backoff := ofPolicy b.policy

/-- Counts the waiting time from `now` on without spending an attempt. -/
def markStarted (now : UInt32) (b : Backoff) : Backoff := { b with last := some now }

def isSpent (b : Backoff) : Bool :=
  match b.policy.budget with
  | none => false
  | some n => n ≤ b.attempts

/-- Has the interval since the last attempt not passed yet? -/
def isEarly (now : UInt32) (b : Backoff) : Bool :=
  match b.last with
  | none => false
  | some t => Clock.elapsed now t < b.interval

def recordAttempt (now : UInt32) (b : Backoff) : Backoff :=
  { b with
    last := some now
    attempts := succ b.attempts
    interval := min (double b.interval) b.policy.ceiling }

/-- Decides whether to attempt at `now`, and records the attempt if so. -/
def poll (now : UInt32) (b : Backoff) : Verdict × Backoff :=
  if b.isSpent then (.spent, b)
  else if b.isEarly now then (.wait, b)
  else (.attempt (b.recordAttempt now).attempts, b.recordAttempt now)

theorem toNat_double (x : UInt32) : (double x).toNat = min (2 * x.toNat) 4294967295 := by
  unfold double
  split
  · next h =>
    have := UInt32.lt_iff_toNat_lt.1 h
    simp at this
    simp [UInt32.toNat_mul]
    omega
  · next h =>
    have := mt UInt32.lt_iff_toNat_lt.2 h
    simp at this
    have := x.toNat_lt
    simp
    omega

theorem toNat_succ (x : UInt32) : (succ x).toNat = min (x.toNat + 1) 4294967295 := by
  unfold succ
  split
  · next h =>
    have := UInt32.lt_iff_toNat_lt.1 h
    simp at this
    simp [UInt32.toNat_add]
    omega
  · next h =>
    have := mt UInt32.lt_iff_toNat_lt.2 h
    simp at this
    have := x.toNat_lt
    omega

end Backoff
end Telemetry
