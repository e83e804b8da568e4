import Telemetry.Proofs.Backoff

/-!
# The law of the backoff

A backoff may be asked for attempts, told of starts and reset in any order and at any readings of the clock. After `k`
attempts since the last reset its interval is `base * 2 ^ k` up to the ceiling, as whole numbers, and its counter is `k`
up to the greatest value. What it answers follows from the starts since the last reset and the time that has passed
since the last one of them, on the wrapping clock.
-/

namespace Telemetry.Backoff

/-! ## Runs -/

/-- What is done to a backoff. -/
inductive Act
  | poll (now : UInt32)
  | markStarted (now : UInt32)
  | reset
  deriving DecidableEq, Repr

/-- A backoff with the starts since its last reset. -/
structure Course where
  backoff : Backoff
  starts : List Start := []
  deriving DecidableEq, Repr

namespace Course

/-- An attempt is a start that is counted. What made a poll an attempt is its verdict. -/
def act (c : Course) : Act → Course
  | .poll now =>
    match c.backoff.poll now with
    | (.attempt _, backoff) => { backoff, starts := c.starts ++ [⟨true, now⟩] }
    | (.wait, backoff) | (.spent, backoff) => { c with backoff }
  | .markStarted now => { backoff := c.backoff.markStarted now, starts := c.starts ++ [⟨false, now⟩] }
  | .reset => { backoff := c.backoff.reset }

/-- What a new backoff comes to. -/
def run (p : Policy) (acts : List Act) : Course := acts.foldl act { backoff := ofPolicy p }

end Course

/-! ## The law -/

/-- There is a budget, and as many attempts have been made. -/
def IsSpent (p : Policy) (starts : List Start) : Prop := ∃ n ∈ p.budget, attemptsIn starts = n.toNat

/-- Less than the interval has passed since the last start, modulo `2 ^ 32`. -/
def IsEarly (interval : Nat) (starts : List Start) (now : UInt32) : Prop :=
  ∃ last ∈ starts.getLast?, (2 ^ 32 + now.toNat - last.time.toNat) % 2 ^ 32 < interval

/-- What the starts since the last reset say about the backoff and its next verdict. -/
structure Lawful (p : Policy) (c : Course) : Prop where
  interval : c.backoff.interval.toNat = min (p.base.toNat * 2 ^ attemptsIn c.starts) p.ceiling.toNat
  attempts : c.backoff.attempts.toNat = min (attemptsIn c.starts) (2 ^ 32 - 1)
  bounded : ∀ n ∈ p.budget, attemptsIn c.starts ≤ n.toNat ∧ c.backoff.attempts ≤ n
  spent_iff : ∀ now, (c.backoff.poll now).1 = .spent ↔ IsSpent p c.starts
  wait_iff : ∀ now, (c.backoff.poll now).1 = .wait ↔
    ¬ IsSpent p c.starts ∧ IsEarly c.backoff.interval.toNat c.starts now
  attempt_iff : ∀ now number, (c.backoff.poll now).1 = .attempt number ↔
    ¬ IsSpent p c.starts ∧ ¬ IsEarly c.backoff.interval.toNat c.starts now ∧
      number.toNat = min (c.backoff.attempts.toNat + 1) (2 ^ 32 - 1)
  unchanged : ∀ now, (∀ number, (c.backoff.poll now).1 ≠ .attempt number) → (c.backoff.poll now).2 = c.backoff

/-! ## Each act keeps to the starts -/

variable {p : Policy} {c : Course} {b : Backoff} {now : UInt32}

/-- The backoff comes from these starts, and the budget has paid for the attempts among them. -/
structure Follows (p : Policy) (c : Course) : Prop where
  tracks : Tracks p c.starts c.backoff
  bounded : ∀ n ∈ p.budget, attemptsIn c.starts ≤ n.toNat

theorem Follows.isSpent_iff (h : Follows p c) : c.backoff.isSpent = true ↔ IsSpent p c.starts := by
  rw [isSpent, IsSpent, h.tracks.policy]
  cases budget : p.budget with
  | none => simp
  | some n =>
    have bounded := h.bounded n budget
    have small := n.toNat_lt
    simp only [decide_eq_true_eq, UInt32.le_iff_toNat_le, h.tracks.attempts, Option.mem_some_iff, exists_eq_left']
    omega

theorem follows_start (h : p.check = .ok ()) : Follows p { backoff := ofPolicy p } :=
  ⟨tracks_reset h (b := ofPolicy p) rfl, fun _ _ => Nat.zero_le _⟩

theorem Follows.act (check : p.check = .ok ()) (h : Follows p c) (a : Act) : Follows p (c.act a) := by
  cases a with
  | reset => exact ⟨tracks_reset check h.tracks.policy, fun _ _ => Nat.zero_le _⟩
  | markStarted now =>
    refine ⟨h.tracks.markStarted now, fun n budget => ?_⟩
    simpa [Course.act, attemptsIn] using h.bounded n budget
  | poll now =>
    obtain ⟨-, polled⟩ | ⟨-, -, polled⟩ | ⟨left, -, polled⟩ := poll_cases now c.backoff
    · simpa only [Course.act, polled] using h
    · simpa only [Course.act, polled] using h
    · simp only [Course.act, polled]
      refine ⟨h.tracks.recordAttempt now, fun n budget => ?_⟩
      -- One more attempt fits, since the budget was not spent.
      have bounded := h.bounded n budget
      have unspent : attemptsIn c.starts ≠ n.toNat := fun spent => by
        simp [h.isSpent_iff.2 ⟨n, budget, spent⟩] at left
      simp only [attemptsIn_append, show attemptsIn [⟨true, now⟩] = 1 from rfl]
      omega

theorem follows_run (h : p.check = .ok ()) (acts : List Act) : Follows p (Course.run p acts) := by
  have kept : ∀ c, Follows p c → Follows p (acts.foldl Course.act c) := by
    induction acts with
    | nil => exact fun _ follows => follows
    | cons a acts ih => exact fun c follows => ih _ (follows.act h a)
  exact kept _ (follows_start h)

/-! ## Verdicts -/

theorem poll_eq_spent_iff : (b.poll now).1 = .spent ↔ b.isSpent = true := by
  obtain ⟨spent, polled⟩ | ⟨spent, -, polled⟩ | ⟨spent, -, polled⟩ := poll_cases now b
  all_goals simp [polled, spent]

theorem poll_eq_wait_iff : (b.poll now).1 = .wait ↔ ¬ b.isSpent = true ∧ b.isEarly now = true := by
  obtain ⟨spent, polled⟩ | ⟨spent, early, polled⟩ | ⟨spent, early, polled⟩ := poll_cases now b
  · simp [polled, spent]
  · simp [polled, spent, early]
  · simp [polled, early]

theorem poll_eq_attempt_iff {number : UInt32} : (b.poll now).1 = .attempt number ↔
    ¬ b.isSpent = true ∧ ¬ b.isEarly now = true ∧ number = succ b.attempts := by
  obtain ⟨spent, polled⟩ | ⟨spent, early, polled⟩ | ⟨spent, early, polled⟩ := poll_cases now b
  · simp [polled, spent]
  · simp [polled, early]
  · simp [polled, spent, early, recordAttempt, eq_comm]

/-- Only an attempt changes the backoff. -/
theorem poll_unchanged (silent : ∀ number, (b.poll now).1 ≠ .attempt number) : (b.poll now).2 = b := by
  obtain ⟨-, polled⟩ | ⟨-, -, polled⟩ | ⟨-, -, polled⟩ := poll_cases now b
  · rw [polled]
  · rw [polled]
  · exact absurd (by rw [polled]) (silent _)

theorem toNat_elapsed (now since : UInt32) :
    (Clock.elapsed now since).toNat = (2 ^ 32 + now.toNat - since.toNat) % 2 ^ 32 := by
  have := since.toNat_lt
  rw [Clock.elapsed, UInt32.toNat_sub]
  congr 1
  omega

theorem Follows.isEarly_iff (h : Follows p c) :
    c.backoff.isEarly now = true ↔ IsEarly c.backoff.interval.toNat c.starts now := by
  rw [isEarly, IsEarly, h.tracks.last]
  cases c.starts.getLast? with
  | none => simp
  | some last => simp [UInt32.lt_iff_toNat_lt, toNat_elapsed]

theorem Follows.lawful (h : Follows p c) : Lawful p c where
  interval := h.tracks.interval
  attempts := h.tracks.attempts
  bounded n budget := by
    have bounded := h.bounded n budget
    refine ⟨bounded, UInt32.le_iff_toNat_le.2 ?_⟩
    rw [h.tracks.attempts]
    exact Nat.le_trans (Nat.min_le_left _ _) bounded
  spent_iff now := by rw [poll_eq_spent_iff, h.isSpent_iff]
  wait_iff now := by rw [poll_eq_wait_iff, h.isSpent_iff, h.isEarly_iff]
  attempt_iff now number := by
    have counted : number = succ c.backoff.attempts ↔
        number.toNat = min (c.backoff.attempts.toNat + 1) (2 ^ 32 - 1) := by
      rw [← UInt32.toNat_inj, toNat_succ]
      rfl
    rw [poll_eq_attempt_iff, h.isSpent_iff, h.isEarly_iff, counted]
  unchanged now silent := poll_unchanged silent

/-- Whatever has been done to a backoff, it keeps to the law. -/
theorem lawful_after (p : Policy) (h : p.check = .ok ()) (acts : List Act) : Lawful p (Course.run p acts) :=
  (follows_run h acts).lawful

/-- A start shortly before the clock wraps holds the first attempt back across the wrap. -/
theorem lawful_across_wrap :
    let p : Policy := { base := 5000, ceiling := 8000, budget := some 2 }
    let acts := [.markStarted 0xFFFFFC18, .poll 3999, .poll 4000, .poll 11999, .poll 12000, .poll 99999]
    p.check = .ok () ∧ (Course.run p acts).starts = [⟨false, 0xFFFFFC18⟩, ⟨true, 4000⟩, ⟨true, 12000⟩] ∧
      (Course.run p acts).backoff.interval = 8000 ∧ Lawful p (Course.run p acts) :=
  ⟨rfl, by decide, by decide, lawful_after _ rfl _⟩

end Telemetry.Backoff
