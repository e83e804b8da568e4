import Telemetry.Proofs.Link.Effect
import Telemetry.Proofs.Replay

/-!
# Simulations of the link manager

A simulation is a relation between link managers under which an operation looks at the same things in both, and
which the parts of the operations keep. Then every operation answers alike in both and keeps the relation.
-/

namespace Telemetry.Link

variable {ρ σ : Type} [Radio ρ] [Storage σ]

/-- Forgets the credentials, in the store first. -/
def forget (l : Link ρ σ) : Except Failure Unit × Link ρ σ :=
  let r := Storage.putEach [(Store.linkIdentity, none), (Store.linkSecret, none)] l.store
  let l := { l with store := r.2 }
  match r.1 with
  | .error e => (.error (.storage e), l)
  | .ok () => (.ok (), { l with credentials := none })

theorem clearCredentials_eq_forget (l : Link ρ σ) : l.clearCredentials = l.ensureOff.forget := rfl

/-- What the operations look at is the same in both managers. -/
structure Looks (l l' : Link ρ σ) : Prop where
  status : l'.status = l.status
  enabled : l'.enabled = l.enabled
  known : l'.hasCredentials = l.hasCredentials
  timeout : l'.timeout = l.timeout
  stands : Radio.isConnected l'.radio = Radio.isConnected l.radio
  intent : Storage.bool? Store.linkEnabled l'.store = Storage.bool? Store.linkEnabled l.store
  /-- How long an association has been awaited matters only while one is. -/
  waited : l.status = .connecting →
    Clock.elapsed l'.now l'.startedAt = Clock.elapsed l.now l.startedAt

/-- The parts of the operations keep the relation. -/
structure Simulation (R : Link ρ σ → Link ρ σ → Prop) : Prop where
  looks : ∀ {l l'}, R l l' → Looks l l'
  become : ∀ {l l'}, R l l' → ∀ s, s ≠ .connecting → R (l.become s) (l'.become s)
  look : ∀ {l l'}, R l l' → R l.look l'.look
  beginTick : ∀ {l l'}, R l l' → R l.beginTick l'.beginTick
  endTick : ∀ {l l'}, R l l' → R l.endTick l'.endTick
  resetBackoff : ∀ {l l'}, R l l' → R l.resetBackoff l'.resetBackoff
  poll : ∀ {l l'}, R l l' →
    (l'.backoff.poll l'.now).1 = (l.backoff.poll l.now).1 ∧
      R { l with backoff := (l.backoff.poll l.now).2 } { l' with backoff := (l'.backoff.poll l'.now).2 }
  turn : ∀ {l l'}, R l l' → ∀ on, R { l with enabled := on } { l' with enabled := on }
  persist : ∀ {l l'}, R l l' → ∀ on, R (l.persist on) (l'.persist on)
  dissociate : ∀ {l l'}, R l l' → ∀ powerDown, R (l.dissociate powerDown) (l'.dissociate powerDown)
  connect : ∀ {l l'}, R l l' → ∀ c c', l.credentials = some c → l'.credentials = some c' →
    R (l.connect c) (l'.connect c')
  setCredentials : ∀ {l l'}, R l l' → ∀ identity secret,
    Alike R (l.setCredentials identity secret) (l'.setCredentials identity secret)
  forget : ∀ {l l'}, R l l' → Alike R l.forget l'.forget

variable {R : Link ρ σ → Link ρ σ → Prop} {l l' : Link ρ σ}

namespace Simulation

theorem reconnectIfDue (sim : Simulation R) (h : R l l') : R l.reconnectIfDue l'.reconnectIfDue := by
  obtain ⟨verdict, polled⟩ := sim.poll h
  unfold Link.reconnectIfDue
  cases hp : l.backoff.poll l.now with
  | mk v k =>
    cases hp' : l'.backoff.poll l'.now with
    | mk v' k' =>
      rw [hp, hp'] at verdict polled
      obtain rfl : v' = v := verdict
      cases v' with
      | wait => exact h
      | spent => exact sim.become h .error (by decide)
      | attempt _ =>
        have known := (sim.looks h).known
        dsimp only
        split
        · next c found =>
          split
          · next c' found' => exact sim.connect polled c c' found found'
          · next none' => simp [hasCredentials, found, none'] at known
        · next none =>
          split
          · next c' found' => simp [hasCredentials, none, found'] at known
          · exact sim.become polled .error (by decide)

theorem advance (sim : Simulation R) (h : R l l') : R l.advance l'.advance := by
  have looks := sim.looks h
  have status := looks.status
  cases shown : l.status with
  | connecting =>
    rw [shown] at status
    simp only [Link.advance, shown, status, looks.stands, looks.timeout, looks.waited shown]
    split
    · exact sim.resetBackoff (sim.become h .connected (by decide))
    · split
      · exact sim.reconnectIfDue (sim.become (sim.dissociate h false) .disconnected (by decide))
      · exact h
  | connected =>
    rw [shown] at status
    simp only [Link.advance, shown, status, looks.stands]
    split
    · exact h
    · exact sim.reconnectIfDue (sim.resetBackoff (sim.become h .disconnected (by decide)))
  | disconnected | error =>
    rw [shown] at status
    simp only [Link.advance, shown, status]
    exact sim.reconnectIfDue h
  | disabled =>
    rw [shown] at status
    simp only [Link.advance, shown, status]
    exact h

theorem tick (sim : Simulation R) (h : R l l') : R l.tick l'.tick := by
  unfold Link.tick
  rw [(sim.looks h).enabled]
  split
  · exact sim.endTick (sim.advance (sim.look (sim.beginTick h)))
  · exact h

theorem enable (sim : Simulation R) (h : R l l') : R l.enable l'.enable := by
  have looks := sim.looks h
  unfold Link.enable
  rw [looks.enabled, looks.status]
  split
  · exact h
  · have on := sim.resetBackoff (sim.persist (sim.turn h true) true)
    have known := looks.known
    split
    · next none =>
      split
      · exact sim.become h .error (by decide)
      · next c' found' => simp [hasCredentials, none, found'] at known
    · next c found =>
      split
      · next none' => simp [hasCredentials, found, none'] at known
      · next c' found' => exact sim.connect on c c' found found'

theorem disable (sim : Simulation R) (h : R l l') : R l.disable l'.disable := by
  have dropped := sim.dissociate (sim.turn h false) true
  exact sim.become (sim.persist dropped false) .disabled (by decide)

theorem init (sim : Simulation R) (h : R l l') : R l.init l'.init := by
  have looks := sim.looks h
  unfold Link.init
  rw [looks.intent, looks.known]
  split
  · exact sim.enable h
  · exact h

theorem clearCredentials (sim : Simulation R) (h : R l l') :
    Alike R l.clearCredentials l'.clearCredentials := by
  have off : R l.ensureOff l'.ensureOff := by
    unfold ensureOff
    rw [(sim.looks h).enabled]
    split
    · exact sim.disable h
    · exact h
  rw [clearCredentials_eq_forget, clearCredentials_eq_forget]
  exact sim.forget off

/-- Every operation answers alike in both managers and keeps the relation. -/
theorem perform (sim : Simulation R) (op : Op) (h : R l l') : Alike R (op.perform l) (op.perform l') := by
  cases op with
  | init => exact ⟨rfl, sim.init h⟩
  | enable => exact ⟨rfl, sim.enable h⟩
  | disable => exact ⟨rfl, sim.disable h⟩
  | tick => exact ⟨rfl, sim.tick h⟩
  | setCredentials identity secret => exact sim.setCredentials h identity secret
  | clearCredentials => exact sim.clearCredentials h

end Simulation

end Telemetry.Link
