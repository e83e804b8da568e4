import Telemetry.Proofs.Broker.Simulation
import Telemetry.Proofs.Link.Simulation

/-!
# Shifting the clock

A manager whose clock is ahead by `d`, and whose stamps are too, acts like the one without the shift. The stamp
of the last start is an exception: the one that a manager begins with is not a reading of the clock, so it is not
shifted. It is looked at only while a connection is awaited, and by then it has been taken anew.
-/

namespace Telemetry

open Transport

/-- The backoff with its stamp shifted. -/
def Backoff.shift (d : UInt32) (b : Backoff) : Backoff := { b with last := b.last.map (· + d) }

@[simp] theorem Backoff.isEarly_shift (d now : UInt32) (b : Backoff) :
    (b.shift d).isEarly (now + d) = b.isEarly now := by
  unfold isEarly shift
  cases b.last <;> simp

theorem Backoff.poll_shift (d now : UInt32) (b : Backoff) :
    (b.shift d).poll (now + d) = ((b.poll now).1, (b.poll now).2.shift d) := by
  have spent : (b.shift d).isSpent = b.isSpent := rfl
  unfold poll
  rw [spent, isEarly_shift]
  split
  · rfl
  · split <;> rfl

/-- The clock with all its readings shifted. -/
def Clock.shift (d : UInt32) (c : Clock) : Clock := { now := c.now + d, later := c.later.map (· + d) }

theorem Clock.look_shift (d : UInt32) (c : Clock) : (c.shift d).look = c.look.shift d := by
  obtain ⟨now, _ | ⟨next, later⟩⟩ := c <;> rfl

def Journal.shift (d : UInt32) (journal : Journal) : Journal :=
  { journal with toClock := journal.toClock.shift d }

/-- The board at a shifted time. -/
def Board.shift {σ : Type} (d : UInt32) (board : Board σ) : Board σ :=
  { board with toJournal := board.toJournal.shift d }

namespace Link

variable {ρ σ : Type}

/-- The manager with its clock and its backoff shifted, and with another stamp of the last start. -/
def displace (d stamp : UInt32) (l : Link ρ σ) : Link ρ σ :=
  { l with
    toBoard := l.toBoard.shift d
    backoff := l.backoff.shift d
    startedAt := stamp }

/-- The second manager is the first one shifted. -/
def Shifted (d : UInt32) (l l' : Link ρ σ) : Prop :=
  ∃ stamp, l' = l.displace d stamp ∧ (l.status = .connecting → stamp = l.startedAt + d)

theorem look_displace (d stamp : UInt32) (l : Link ρ σ) : (l.displace d stamp).look = l.look.displace d stamp :=
  congrArg (fun clock => { l.displace d stamp with toClock := clock }) (l.toClock.look_shift d)

theorem notify_displace (notice : Option Status) (d stamp : UInt32) (l : Link ρ σ) :
    (l.displace d stamp).notify notice = (l.notify notice).displace d stamp := by
  cases notice <;> rfl

theorem become_displace (s : Status) (d stamp : UInt32) (l : Link ρ σ) :
    (l.displace d stamp).become s = (l.become s).displace d stamp :=
  notify_displace _ d stamp { l with indicator := (l.indicator.set s).1 }

theorem endTick_displace (d stamp : UInt32) (l : Link ρ σ) :
    (l.displace d stamp).endTick = l.endTick.displace d stamp :=
  notify_displace _ d stamp { l with indicator := l.indicator.endTick.1 }

theorem startedAt_notify (notice : Option Status) (l : Link ρ σ) :
    (l.notify notice).startedAt = l.startedAt := by
  cases notice <;> rfl

/-- What changes neither the status nor the stamp of the last start. -/
theorem Shifted.of_same {d : UInt32} {l l' k : Link ρ σ} {f : Link ρ σ → Link ρ σ} (h : Shifted d l l')
    (same : ∀ stamp, f (l.displace d stamp) = k.displace d stamp) (status : k.status = l.status)
    (startedAt : k.startedAt = l.startedAt) : Shifted d k (f l') := by
  obtain ⟨stamp, rfl, started⟩ := h
  refine ⟨stamp, same stamp, ?_⟩
  rwa [status, startedAt]

/-- Others have used the board. -/
theorem Shifted.onBoard {d : UInt32} {l l' : Link ρ σ} (h : Shifted d l l') (board : Board σ) :
    Shifted d { l with toBoard := board } { l' with toBoard := board.shift d } := by
  obtain ⟨stamp, rfl, started⟩ := h
  exact ⟨stamp, rfl, started⟩

section Radio

variable [Radio ρ]

/-- The start of an association is stamped. -/
theorem connect_displace (c : Credentials) (d stamp : UInt32) (l : Link ρ σ) :
    (l.displace d stamp).connect c = (l.connect c).displace d (l.look.now + d) := by
  by_cases first : l.look.backoff.attempts = 0
  · have first' : (l.look.displace d stamp).backoff.attempts = 0 := first
    simp only [connect, look_displace, if_pos first, if_pos first', ← become_displace]
    rfl
  · have first' : (l.look.displace d stamp).backoff.attempts ≠ 0 := first
    simp only [connect, look_displace, if_neg first, if_neg first', ← become_displace]
    rfl

theorem startedAt_connect (c : Credentials) (l : Link ρ σ) : (l.connect c).startedAt = l.look.now := by
  unfold connect become
  dsimp only
  rw [startedAt_notify]
  rfl

end Radio

variable [Storage σ]

theorem setCredentials_displace (identity secret : String) (d stamp : UInt32) (l : Link ρ σ) :
    (l.displace d stamp).setCredentials identity secret =
      ((l.setCredentials identity secret).1, (l.setCredentials identity secret).2.displace d stamp) := by
  unfold setCredentials
  cases Credentials.make identity secret with
  | error e => rfl
  | ok c =>
    dsimp only [displace, Board.shift, Journal.shift]
    split <;> rfl

theorem shifted_simulation [Radio ρ] (d : UInt32) : Simulation (Shifted (ρ := ρ) (σ := σ) d) where
  looks := by
    rintro l _ ⟨stamp, rfl, started⟩
    refine ⟨rfl, rfl, rfl, rfl, rfl, rfl, fun awaited => ?_⟩
    rw [started awaited]
    exact Clock.elapsed_add_right l.now l.startedAt d
  become := by
    rintro l _ ⟨stamp, rfl, -⟩ s settled
    refine ⟨stamp, become_displace s d stamp l, fun awaited => ?_⟩
    rw [status_become] at awaited
    exact absurd awaited settled
  look h := h.of_same (fun stamp => look_displace d stamp _) rfl rfl
  beginTick h := h.of_same (fun _ => rfl) rfl rfl
  endTick h := h.of_same (fun stamp => endTick_displace d stamp _) (status_endTick _) (startedAt_notify _ _)
  resetBackoff h := h.of_same (fun _ => rfl) rfl rfl
  poll := by
    rintro l _ ⟨stamp, rfl, started⟩
    have polled : (l.displace d stamp).backoff.poll (l.displace d stamp).now = _ := l.backoff.poll_shift d l.now
    rw [polled]
    exact ⟨rfl, stamp, rfl, started⟩
  turn h on := h.of_same (f := fun l => { l with enabled := on }) (fun _ => rfl) rfl rfl
  persist h on := h.of_same (f := Link.persist on) (fun _ => rfl) rfl rfl
  dissociate h powerDown := h.of_same (f := Link.dissociate powerDown) (fun _ => rfl) rfl rfl
  connect := by
    rintro l _ ⟨stamp, rfl, -⟩ c c' found found'
    obtain rfl : c = c' := Option.some.inj (found.symm.trans found')
    refine ⟨l.look.now + d, connect_displace c d stamp l, fun _ => ?_⟩
    rw [startedAt_connect]
  setCredentials := by
    rintro l _ ⟨stamp, rfl, started⟩ identity secret
    rw [setCredentials_displace]
    refine ⟨rfl, stamp, rfl, ?_⟩
    obtain ⟨e, store, refused⟩ | ⟨c, store, -, adopted⟩ := setCredentials_cases identity secret l
    · rw [refused]
      exact started
    · rw [adopted]
      exact started
  forget := by
    rintro l _ ⟨stamp, rfl, started⟩
    unfold forget
    dsimp only [displace, Board.shift, Journal.shift]
    split <;> exact ⟨rfl, stamp, rfl, started⟩

end Link

namespace Broker

variable {β σ : Type}

/-- The manager with its clock and its backoff shifted, and with another stamp of the last start. -/
def displace (d stamp : UInt32) (b : Broker β σ) : Broker β σ :=
  { b with
    toBoard := b.toBoard.shift d
    backoff := b.backoff.shift d
    startedAt := stamp }

/-- The second manager is the first one shifted. -/
def Shifted (d : UInt32) (b b' : Broker β σ) : Prop :=
  ∃ stamp, b' = b.displace d stamp ∧ (b.status = .connecting → stamp = b.startedAt + d)

theorem look_displace (d stamp : UInt32) (b : Broker β σ) : (b.displace d stamp).look = b.look.displace d stamp :=
  congrArg (fun clock => { b.displace d stamp with toClock := clock }) (b.toClock.look_shift d)

theorem notify_displace (notice : Option Status) (d stamp : UInt32) (b : Broker β σ) :
    (b.displace d stamp).notify notice = (b.notify notice).displace d stamp := by
  cases notice <;> rfl

theorem become_displace (s : Status) (d stamp : UInt32) (b : Broker β σ) :
    (b.displace d stamp).become s = (b.become s).displace d stamp :=
  notify_displace _ d stamp { b with indicator := (b.indicator.set s).1 }

theorem endTick_displace (d stamp : UInt32) (b : Broker β σ) :
    (b.displace d stamp).endTick = b.endTick.displace d stamp :=
  notify_displace _ d stamp { b with indicator := b.indicator.endTick.1 }

theorem report_displace (id : UInt32) (delivery : Delivery) (d stamp : UInt32) (b : Broker β σ) :
    (b.displace d stamp).report id delivery = (b.report id delivery).displace d stamp := by
  have reporting : (b.displace d stamp).reporting = b.reporting := rfl
  unfold report
  rw [reporting]
  split <;> rfl

theorem startedAt_notify (notice : Option Status) (b : Broker β σ) :
    (b.notify notice).startedAt = b.startedAt := by
  cases notice <;> rfl

theorem startedAt_report (id : UInt32) (delivery : Delivery) (b : Broker β σ) :
    (b.report id delivery).startedAt = b.startedAt := by
  unfold report
  split <;> rfl

/-- What changes neither the status nor the stamp of the last start. -/
theorem Shifted.of_same {d : UInt32} {b b' k : Broker β σ} {f : Broker β σ → Broker β σ} (h : Shifted d b b')
    (same : ∀ stamp, f (b.displace d stamp) = k.displace d stamp) (status : k.status = b.status)
    (startedAt : k.startedAt = b.startedAt) : Shifted d k (f b') := by
  obtain ⟨stamp, rfl, started⟩ := h
  refine ⟨stamp, same stamp, ?_⟩
  rwa [status, startedAt]

/-- Others have used the board. -/
theorem Shifted.onBoard {d : UInt32} {b b' : Broker β σ} (h : Shifted d b b') (board : Board σ) :
    Shifted d { b with toBoard := board } { b' with toBoard := board.shift d } := by
  obtain ⟨stamp, rfl, started⟩ := h
  exact ⟨stamp, rfl, started⟩

/-- The start of a session is stamped. -/
theorem openSession_displace [Client β] (e : Endpoint) (d stamp : UInt32) (b : Broker β σ) :
    (b.displace d stamp).openSession e = (b.openSession e).displace d (b.look.now + d) := by
  by_cases first : b.look.backoff.attempts = 0
  · have first' : (b.look.displace d stamp).backoff.attempts = 0 := first
    simp only [openSession, look_displace, if_pos first, if_pos first', ← become_displace]
    rfl
  · have first' : (b.look.displace d stamp).backoff.attempts ≠ 0 := first
    simp only [openSession, look_displace, if_neg first, if_neg first', ← become_displace]
    rfl

theorem startedAt_openSession [Client β] (e : Endpoint) (b : Broker β σ) :
    (b.openSession e).startedAt = b.look.now := by
  unfold openSession become
  dsimp only
  rw [startedAt_notify]
  rfl

variable [Storage σ]

theorem setEndpoint_displace (host : String) (port : UInt16) (username password : Option String)
    (d stamp : UInt32) (b : Broker β σ) :
    (b.displace d stamp).setEndpoint host port username password =
      ((b.setEndpoint host port username password).1,
        (b.setEndpoint host port username password).2.displace d stamp) := by
  unfold setEndpoint
  cases Endpoint.make host port username password with
  | error e => rfl
  | ok e =>
    dsimp only [displace, Board.shift, Journal.shift]
    split <;> rfl

/-- A new endpoint changes neither the status nor the stamp of the last start. -/
theorem shifted_simulation [Client β] (d : UInt32) : Simulation.Ticks (Shifted (β := β) (σ := σ) d) where
  looks := by
    rintro b _ ⟨stamp, rfl, started⟩
    refine ⟨rfl, rfl, rfl, rfl, rfl, rfl, rfl, rfl, fun awaited => ?_⟩
    rw [started awaited]
    exact Clock.elapsed_add_right b.now b.startedAt d
  become := by
    rintro b _ ⟨stamp, rfl, -⟩ s settled
    refine ⟨stamp, become_displace s d stamp b, fun awaited => ?_⟩
    rw [status_become] at awaited
    exact absurd awaited settled
  look h := h.of_same (fun stamp => look_displace d stamp _) rfl rfl
  beginTick h := h.of_same (fun _ => rfl) rfl rfl
  endTick h := h.of_same (fun stamp => endTick_displace d stamp _) (status_endTick _) (startedAt_notify _ _)
  resetBackoff h := h.of_same (fun _ => rfl) rfl rfl
  poll := by
    rintro b _ ⟨stamp, rfl, started⟩
    have polled : (b.displace d stamp).backoff.poll (b.displace d stamp).now = _ := b.backoff.poll_shift d b.now
    rw [polled]
    exact ⟨rfl, stamp, rfl, started⟩
  report h id delivery :=
    h.of_same (fun stamp => report_displace id delivery d stamp _) (outward_report _ _ _).status (startedAt_report _ _ _)
  replace h q := h.of_same (f := fun b => { b with outbox := q }) (fun _ => rfl) rfl rfl
  turn h on := h.of_same (f := fun b => { b with enabled := on }) (fun _ => rfl) rfl rfl
  persist h on := h.of_same (f := Broker.persist on) (fun _ => rfl) rfl rfl
  send := by
    rintro b _ ⟨stamp, rfl, started⟩ m
    exact ⟨rfl, stamp, rfl, started⟩
  closeSession h := h.of_same (fun _ => rfl) rfl rfl
  openSession := by
    rintro b _ ⟨stamp, rfl, -⟩ e e' found found'
    obtain rfl : e = e' := Option.some.inj (found.symm.trans found')
    refine ⟨b.look.now + d, openSession_displace e d stamp b, fun _ => ?_⟩
    rw [startedAt_openSession]
  setEndpoint := by
    rintro b _ ⟨stamp, rfl, started⟩ host port username password
    rw [setEndpoint_displace]
    refine ⟨rfl, stamp, rfl, ?_⟩
    obtain ⟨e, store, refused⟩ | ⟨e, store, -, adopted⟩ := setEndpoint_cases host port username password b
    · rw [refused]
      exact started
    · rw [adopted]
      exact started
  forget := by
    rintro b _ ⟨stamp, rfl, started⟩
    unfold forget
    dsimp only [displace, Board.shift, Journal.shift]
    split <;> exact ⟨rfl, stamp, rfl, started⟩

end Broker
end Telemetry
