import Telemetry.Proofs.Link.Effect

/-!
# What the intent says of the link

A link that is on has credentials and shows another status than `disabled`; one that is off shows `disabled`,
or `error` if turning it on was refused. The credentials are always within their limits. This holds from
the start on, whatever the store contains, and every operation keeps it.
-/

namespace Telemetry

namespace Credentials

/-- The credentials are within their limits, in bytes. -/
structure IsValid (c : Credentials) : Prop where
  identity : 1 ≤ c.identity.utf8ByteSize ∧ c.identity.utf8ByteSize ≤ 32
  secret : 1 ≤ c.secret.utf8ByteSize ∧ c.secret.utf8ByteSize ≤ 64

theorem fits_iff {limit : Nat} {s : String} :
    fits limit s = true ↔ 1 ≤ s.utf8ByteSize ∧ s.utf8ByteSize ≤ limit := by
  simp [fits, Nat.lt_iff_add_one_le]

/-- What `make` yields is made of its arguments. -/
theorem eq_of_make {identity secret : String} {c : Credentials} (h : make identity secret = .ok c) :
    fits maxIdentity identity = true ∧ fits maxSecret secret = true ∧ c = ⟨identity, secret⟩ := by
  unfold make at h
  split at h
  · cases h
  · split at h
    · cases h
    · cases h
      simp_all

theorem isValid_of_make {identity secret : String} {c : Credentials}
    (h : make identity secret = .ok c) : c.IsValid := by
  obtain ⟨first, second, rfl⟩ := eq_of_make h
  exact ⟨fits_iff.1 first, fits_iff.1 second⟩

end Credentials

namespace Link

variable {ρ σ : Type}

structure Sound (l : Link ρ σ) : Prop where
  on : l.enabled = true → l.credentials.isSome = true ∧ l.status ≠ .disabled
  off : l.enabled = false → l.status = .disabled ∨ l.status = .error
  valid : ∀ c ∈ l.credentials, c.IsValid

variable {l l' : Link ρ σ}

theorem IsStarted.ne_disabled {s : Status} (h : IsStarted s) : s ≠ .disabled := by
  obtain rfl | rfl := h <;> decide

/-- Only the status matters to a link that keeps its intent and its credentials. -/
theorem Sound.of_moves {starts : List Bool} {b : Backoff} (h : Sound l) (moves : Moves l starts b l')
    (on : l.enabled = true → l'.status ≠ .disabled)
    (off : l.enabled = false → l'.status = .disabled ∨ l'.status = .error) : Sound l' := by
  refine ⟨?_, ?_, ?_⟩
  · intro enabled
    rw [moves.enabled] at enabled
    exact ⟨moves.credentials ▸ (h.on enabled).1, on enabled⟩
  · intro disabled
    rw [moves.enabled] at disabled
    exact off disabled
  · rw [moves.credentials]
    exact h.valid

theorem Retries.ne_disabled {b : Backoff} (h : Retries l b l') (shown : l.status ≠ .disabled) :
    l'.status ≠ .disabled := by
  cases h with
  | waits left early moves status =>
    obtain kept | down := status
    · rwa [kept]
    · simp [down]
  | givesUp spent moves status => simp [status]
  | attempts left due answer moves status => exact status.ne_disabled

theorem sound_load [Storage σ] (settings : Settings.Link) (watched : Bool) (radio : ρ) (board : Board σ) :
    Sound (load settings watched radio board) := by
  refine ⟨by simp [load], fun _ => .inl rfl, ?_⟩
  intro c (hc : stored? board.store = some c)
  unfold stored? at hc
  split at hc
  · unfold Except.toOption at hc
    split at hc
    · next made =>
      cases hc
      exact Credentials.isValid_of_make made
    · cases hc
  · cases hc

/-- A link that shows `error` although it is on has spent its budget, or may try again at once. -/
def Calm (l : Link ρ σ) : Prop :=
  l.enabled = true → l.status = .error → l.backoff.isSpent = true ∨ l.backoff.last = none

/-- An attempt that ends in `error` was not made because the budget was spent. -/
theorem Retries.spent {b : Backoff} (h : Retries l b l')
    (before : l.status = .error → b.isSpent = true ∨ b.last = none) (failed : l'.status = .error) :
    l'.backoff.isSpent = true := by
  cases h with
  | waits left early moves status =>
    obtain kept | down := status
    · obtain spent | none := before (kept ▸ failed)
      · simp [left] at spent
      · simp [Backoff.isEarly, none] at early
    · simp [down] at failed
  | givesUp spent moves status =>
    rw [moves.backoff]
    exact spent
  | attempts left due answer moves status =>
    obtain started | started := status <;> simp [started] at failed

theorem Sound.setCredentials [Storage σ] (h : Sound l) (identity secret : String) :
    Sound (l.setCredentials identity secret).2 := by
  obtain ⟨e, store, refused⟩ | ⟨c, store, made, adopted⟩ := setCredentials_cases identity secret l
  · rw [refused]
    exact ⟨h.on, h.off, h.valid⟩
  · rw [adopted]
    refine ⟨fun on => ⟨rfl, (h.on on).2⟩, h.off, ?_⟩
    rintro d ⟨⟩
    exact Credentials.isValid_of_make made

theorem Sound.look (h : Sound l) : Sound l.look := ⟨h.on, h.off, h.valid⟩

section Radio

variable [Radio ρ]

theorem Ticks.ne_disabled (h : Ticks l l') (shown : l.status ≠ .disabled) : l'.status ≠ .disabled := by
  cases h with
  | stays active moves arrived lost status => rwa [status]
  | arrives arrived moves status => simp [status]
  | loses lost retries => exact retries.ne_disabled shown
  | retries arrived lost retries => exact retries.ne_disabled shown

theorem Ticks.spent (h : Ticks l l') (on : l.enabled = true) (calm : l.Calm)
    (failed : l'.status = .error) : l'.backoff.isSpent = true := by
  cases h with
  | stays active moves arrived lost status =>
    rw [status] at failed
    simp [failed, Status.isActive] at active
  | arrives arrived moves status => simp [status] at failed
  | loses lost retries =>
    refine retries.spent (fun shown => ?_) failed
    simp [isLost, shown] at lost
  | retries arrived lost retries => exact retries.spent (calm on) failed

theorem Sound.ticks (h : Sound l) (on : l.enabled = true) : Ticks l.look l.tick :=
  ticks_tick on (h.on on).1 (h.on on).2

theorem tick_of_off (off : l.enabled = false) : l.tick = l := by
  rw [Link.tick, off]
  rfl

theorem Sound.tick (h : Sound l) : Sound l.tick := by
  cases on : l.enabled with
  | false => rwa [tick_of_off on]
  | true =>
    have ticks := h.ticks on
    obtain ⟨starts, b, moves⟩ := ticks.exists_moves
    exact h.look.of_moves moves (fun _ => ticks.ne_disabled (h.on on).2) (fun off => by simp [on] at off)

variable [Storage σ]

theorem Sound.enable (h : Sound l) : Sound l.enable := by
  cases enables_enable l with
  | busy busy same => rwa [same]
  | refuses idle missing moves status =>
    exact h.of_moves moves (fun _ => by simp [status]) (fun _ => .inr status)
  | starts idle found answer moves status =>
    refine ⟨fun _ => ⟨?_, status.ne_disabled⟩, ?_, ?_⟩
    · rw [moves.credentials]
      exact found
    · intro off
      rw [moves.enabled] at off
      cases off
    · rw [moves.credentials]
      exact h.valid

theorem Sound.disable (h : Sound l) : Sound l.disable := by
  have moves := moves_disable l
  refine ⟨?_, fun _ => .inl (status_disable l), ?_⟩
  · intro on
    rw [moves.enabled] at on
    cases on
  · rw [moves.credentials]
    exact h.valid

theorem Sound.init (h : Sound l) : Sound l.init := by
  unfold Link.init
  split
  · exact h.enable
  · exact h

theorem Sound.ensureOff (h : Sound l) : Sound l.ensureOff := by
  unfold Link.ensureOff
  split
  · exact h.disable
  · exact h

/-- The link is off before its credentials are forgotten, so it does not miss them. -/
theorem Sound.clearCredentials (h : Sound l) : Sound l.clearCredentials.2 := by
  have off := h.ensureOff
  obtain ⟨e, store, refused⟩ | ⟨store, cleared⟩ := clearCredentials_cases l
  · rw [refused]
    exact ⟨off.on, off.off, off.valid⟩
  · rw [cleared]
    exact ⟨fun on => absurd on (by simp), off.off, by simp⟩

theorem Sound.perform (h : Sound l) (op : Op) : Sound (op.perform l).2 := by
  cases op with
  | init => exact h.init
  | enable => exact h.enable
  | disable => exact h.disable
  | tick => exact h.tick
  | setCredentials identity secret => exact h.setCredentials identity secret
  | clearCredentials => exact h.clearCredentials

theorem Calm.perform (calm : l.Calm) (sound : Sound l) (op : Op) : (op.perform l).2.Calm := by
  have enabled : Calm l.enable := by
    intro on failed
    cases enables_enable l with
    | busy busy same =>
      rw [same] at on failed ⊢
      exact calm on failed
    | refuses idle missing moves status =>
      rw [moves.enabled] at on
      simpa [missing] using (sound.on on).1
    | starts idle found answer moves status => obtain h | h := status <;> simp [h] at failed
  cases op with
  | init =>
    unfold Op.perform init
    dsimp only
    split
    · exact enabled
    · exact calm
  | enable => exact enabled
  | disable =>
    intro (on : l.disable.enabled = true)
    rw [(moves_disable l).enabled] at on
    cases on
  | tick =>
    show Calm l.tick
    cases on : l.enabled with
    | false => rwa [tick_of_off on]
    | true => exact fun _ failed => .inl ((sound.ticks on).spent on calm failed)
  | setCredentials identity secret =>
    show Calm (l.setCredentials identity secret).2
    obtain ⟨e, store, refused⟩ | ⟨c, store, made, adopted⟩ := setCredentials_cases identity secret l
    · rw [refused]
      exact calm
    · rw [adopted]
      exact fun _ _ => .inr rfl
  | clearCredentials =>
    show Calm l.clearCredentials.2
    obtain ⟨e, store, refused⟩ | ⟨store, cleared⟩ := clearCredentials_cases l
    · rw [refused]
      exact fun on => absurd on (by simp)
    · rw [cleared]
      exact fun on => absurd on (by simp)

theorem Sound.run (h : Sound l) (steps : List (Step ρ σ)) : Sound (run steps l) := by
  induction steps generalizing l with
  | nil => exact h
  | cons s steps ih =>
    have met : Sound (l.meet s) := ⟨h.on, h.off, h.valid⟩
    exact ih (met.perform s.op)

end Radio
end Link
end Telemetry
