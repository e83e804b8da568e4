import Telemetry.Proofs.Broker.Sound
import Telemetry.Proofs.Replay

/-!
# Simulations of the broker manager

Two managers may differ and still act alike. A simulation is a relation between managers under which an operation
looks at the same things in both, and which the parts of the operations keep. Then every operation answers
alike in both and keeps the relation; a tick does so if the relation does not mind that notices are held back.
-/

namespace Telemetry.Broker

variable {β σ : Type}

section Operations

variable [Client β] [Storage σ]

/-- Forgets the endpoint, in the store first. -/
def forget (b : Broker β σ) : Except Failure Unit × Broker β σ :=
  let r := Storage.putEach
    [ (Store.brokerHost, none), (Store.brokerPort, none), (Store.brokerUsername, none),
      (Store.brokerPassword, none) ]
    b.store
  let b := { b with store := r.2 }
  match r.1 with
  | .error e => (.error (.storage e), b)
  | .ok () => (.ok (), { b with endpoint := none })

theorem clearEndpoint_eq_forget (b : Broker β σ) : b.clearEndpoint = b.ensureOff.forget := rfl

/-- What the operations look at is the same in both managers. -/
structure Looks (b b' : Broker β σ) : Prop where
  status : b'.status = b.status
  enabled : b'.enabled = b.enabled
  configured : b'.isConfigured = b.isConfigured
  settings : b'.settings = b.settings
  topics : b'.topics = b.topics
  outbox : b'.outbox = b.outbox
  stands : Client.isConnected b'.client = Client.isConnected b.client
  intent : Storage.bool? Store.brokerEnabled b'.store = Storage.bool? Store.brokerEnabled b.store
  /-- How long a session has been awaited matters only while one is. -/
  waited : b.status = .connecting →
    Clock.elapsed b'.now b'.startedAt = Clock.elapsed b.now b.startedAt

/-- The parts of the operations keep the relation. -/
structure Simulation (R : Broker β σ → Broker β σ → Prop) : Prop where
  looks : ∀ {b b'}, R b b' → Looks b b'
  become : ∀ {b b'}, R b b' → ∀ s, s ≠ .connecting → R (b.become s) (b'.become s)
  look : ∀ {b b'}, R b b' → R b.look b'.look
  resetBackoff : ∀ {b b'}, R b b' → R b.resetBackoff b'.resetBackoff
  poll : ∀ {b b'}, R b b' →
    (b'.backoff.poll b'.now).1 = (b.backoff.poll b.now).1 ∧
      R { b with backoff := (b.backoff.poll b.now).2 } { b' with backoff := (b'.backoff.poll b'.now).2 }
  report : ∀ {b b'}, R b b' → ∀ id d, R (b.report id d) (b'.report id d)
  replace : ∀ {b b'}, R b b' → ∀ q, R { b with outbox := q } { b' with outbox := q }
  turn : ∀ {b b'}, R b b' → ∀ on, R { b with enabled := on } { b' with enabled := on }
  persist : ∀ {b b'}, R b b' → ∀ on, R (b.persist on) (b'.persist on)
  send : ∀ {b b'}, R b b' → ∀ m, Alike R (b.send m) (b'.send m)
  closeSession : ∀ {b b'}, R b b' → R b.closeSession b'.closeSession
  openSession : ∀ {b b'}, R b b' → ∀ e e', b.endpoint = some e → b'.endpoint = some e' →
    R (b.openSession e) (b'.openSession e')
  setEndpoint : ∀ {b b'}, R b b' → ∀ host port username password,
    Alike R (b.setEndpoint host port username password) (b'.setEndpoint host port username password)
  forget : ∀ {b b'}, R b b' → Alike R b.forget b'.forget

/-- So do the begin and the end of a tick. -/
structure Simulation.Ticks (R : Broker β σ → Broker β σ → Prop) : Prop extends Simulation R where
  beginTick : ∀ {b b'}, R b b' → R b.beginTick b'.beginTick
  endTick : ∀ {b b'}, R b b' → R b.endTick b'.endTick

namespace Simulation

variable {R : Broker β σ → Broker β σ → Prop} {b b' : Broker β σ}

/-! ## Sessions -/

theorem connect (sim : Simulation R) (h : R b b') : R b.connect b'.connect := by
  have configured := (sim.looks h).configured
  unfold isConfigured at configured
  unfold Broker.connect
  cases found : b.endpoint with
  | none =>
    rw [found, Option.isSome_none, Option.isSome_eq_false_iff, Option.isNone_iff_eq_none] at configured
    rw [configured]
    exact sim.become h .error (by decide)
  | some e =>
    rw [found, Option.isSome_some] at configured
    obtain ⟨e', found'⟩ := Option.isSome_iff_exists.1 configured
    rw [found']
    exact sim.openSession h e e' found found'

theorem reconnectIfDue (sim : Simulation R) (h : R b b') : R b.reconnectIfDue b'.reconnectIfDue := by
  obtain ⟨verdict, polled⟩ := sim.poll h
  unfold Broker.reconnectIfDue
  cases hp : b.backoff.poll b.now with
  | mk v k =>
    cases hp' : b'.backoff.poll b'.now with
    | mk v' k' =>
      rw [hp, hp'] at verdict polled
      obtain rfl : v' = v := verdict
      cases v' with
      | attempt _ => exact sim.connect polled
      | wait | spent => exact h

/-! ## The outbox -/

theorem sendEach (sim : Simulation R) (es : List Outbox.Entry) (h : R b b') :
    Alike R (b.sendEach es) (b'.sendEach es) := by
  induction es generalizing b b' with
  | nil => exact ⟨rfl, h⟩
  | cons e es ih =>
    have first := sim.send h (message e)
    have others := ih first.state
    refine ⟨?_, others.state⟩
    simp only [Broker.sendEach, first.answer, others.answer]

theorem reportOutcomes (sim : Simulation R) (os : List Outbox.Outcome) (h : R b b') :
    R (os.foldl reportOutcome b) (os.foldl reportOutcome b') := by
  induction os generalizing b b' with
  | nil => exact h
  | cons o os ih =>
    cases o with
    | delivered id => exact ih (sim.report h id .success)
    | dropped id => exact ih (sim.report h id .dropped)
    | requeued id retries => exact ih h

theorem drain (sim : Simulation R) (h : R b b') : R b.drain b'.drain := by
  have waiting := (sim.looks h).outbox
  unfold Broker.drain
  rw [waiting]
  have sent := sim.sendEach b.outbox.due h
  dsimp only
  rw [sent.answer]
  exact sim.reportOutcomes _ (sim.replace sent.state _)

theorem discard (sim : Simulation R) (h : R b b') : R b.discard b'.discard := by
  have reports : ∀ (es : List Outbox.Entry) {b b' : Broker β σ}, R b b' →
      R (es.foldl (fun b e => b.report e.id .dropped) b) (es.foldl (fun b e => b.report e.id .dropped) b') := by
    intro es
    induction es with
    | nil => exact fun h => h
    | cons e es ih => exact fun h => ih (sim.report h e.id .dropped)
  unfold Broker.discard
  rw [(sim.looks h).outbox]
  exact reports _ (sim.replace h .empty)

/-! ## A tick -/

theorem park (sim : Simulation R) (h : R b b') : R b.park b'.park := by
  have closed : R (if b.status.isActive then b.closeSession else b)
      (if b'.status.isActive then b'.closeSession else b') := by
    rw [(sim.looks h).status]
    split
    · exact sim.closeSession h
    · exact h
  exact sim.resetBackoff (sim.become closed .error (by decide))

theorem presence_eq (sim : Simulation R) (h : R b b') (retain : Bool) :
    b'.presence retain = b.presence retain := by
  rw [presence, presence, (sim.looks h).topics]

theorem advance (sim : Simulation R) (h : R b b') : R b.advance b'.advance := by
  have looks := sim.looks h
  have status := looks.status
  cases shown : b.status with
  | connecting =>
    rw [shown] at status
    simp only [Broker.advance, shown, status, looks.stands, looks.settings, looks.waited shown]
    split
    · have connected := sim.resetBackoff (sim.become h .connected (by decide))
      rw [sim.presence_eq connected]
      exact sim.drain (sim.send connected _).state
    · split
      · exact sim.reconnectIfDue (sim.become (sim.closeSession h) .disconnected (by decide))
      · exact h
  | connected =>
    rw [shown] at status
    simp only [Broker.advance, shown, status, looks.stands]
    split
    · exact sim.drain h
    · exact sim.reconnectIfDue (sim.resetBackoff (sim.become h .disconnected (by decide)))
  | disconnected | error =>
    rw [shown] at status
    simp only [Broker.advance, shown, status]
    exact sim.reconnectIfDue h
  | disabled =>
    rw [shown] at status
    simp only [Broker.advance, shown, status]
    exact h

/-! ## Messages -/

theorem enqueue (sim : Simulation R) (e : Outbox.Entry) (h : R b b') : Alike R (b.enqueue e) (b'.enqueue e) := by
  unfold Broker.enqueue
  rw [(sim.looks h).outbox]
  split
  · exact ⟨rfl, sim.replace h _⟩
  · exact ⟨rfl, h⟩

theorem deliver (sim : Simulation R) (id : UInt32) (topic : String) (payload : List UInt8) (h : R b b') :
    Alike R (b.deliver id topic payload) (b'.deliver id topic payload) := by
  have looks := sim.looks h
  unfold Broker.deliver isConnected
  rw [looks.enabled, looks.settings, looks.status]
  split
  · exact ⟨rfl, h⟩
  · split
    · have sent := sim.send h { topic, payload, retain := true }
      dsimp only
      rw [sent.answer]
      split
      · exact ⟨rfl, sent.state⟩
      · exact sim.enqueue _ sent.state
    · exact sim.enqueue _ h

theorem publish (sim : Simulation R) (id : UInt32) (topic : String) (payload : List UInt8) (h : R b b') :
    Alike R (b.publish id topic payload) (b'.publish id topic payload) := by
  have delivered := sim.deliver id topic payload h
  refine ⟨delivered.answer, ?_⟩
  unfold Broker.publish
  dsimp only
  rw [delivered.answer]
  exact sim.report delivered.state id _

theorem publishRecord (sim : Simulation R) (r : Record) (h : R b b') :
    Alike R (b.publishRecord r) (b'.publishRecord r) := by
  have looks := sim.looks h
  unfold Broker.publishRecord
  rw [looks.settings, looks.topics]
  split
  · exact sim.publish _ _ _ h
  · exact ⟨rfl, sim.report h _ _⟩

theorem testConnection (sim : Simulation R) (h : R b b') : Alike R b.testConnection b'.testConnection := by
  unfold Broker.testConnection isConnected
  rw [(sim.looks h).status, sim.presence_eq h]
  split
  · exact sim.send h _
  · exact ⟨rfl, h⟩

/-! ## Turning on and off -/

theorem enable (sim : Simulation R) (linkUp : Bool) (h : R b b') :
    R (b.enable linkUp) (b'.enable linkUp) := by
  have looks := sim.looks h
  unfold Broker.enable
  rw [looks.enabled, looks.status, looks.configured]
  split
  · exact h
  · split
    · exact sim.become h .error (by decide)
    · have on := sim.resetBackoff (sim.persist (sim.turn h true) true)
      dsimp only
      split
      · exact sim.connect on
      · exact sim.become on .error (by decide)

theorem disable (sim : Simulation R) (h : R b b') : R b.disable b'.disable := by
  have discarded := sim.discard (sim.closeSession (sim.turn h false))
  exact sim.become (sim.persist discarded false) .disabled (by decide)

theorem init (sim : Simulation R) (linkUp : Bool) (h : R b b') : R (b.init linkUp) (b'.init linkUp) := by
  have looks := sim.looks h
  unfold Broker.init
  rw [looks.intent, looks.configured]
  split
  · exact sim.enable linkUp h
  · exact h

theorem clearEndpoint (sim : Simulation R) (h : R b b') : Alike R b.clearEndpoint b'.clearEndpoint := by
  have off : R b.ensureOff b'.ensureOff := by
    unfold ensureOff
    rw [(sim.looks h).enabled]
    split
    · exact sim.disable h
    · exact h
  rw [clearEndpoint_eq_forget, clearEndpoint_eq_forget]
  exact sim.forget off

theorem Ticks.tick (sim : Ticks R) (linkUp : Bool) (h : R b b') : R (b.tick linkUp) (b'.tick linkUp) := by
  unfold Broker.tick
  rw [(sim.looks h).enabled]
  split
  · have begun := sim.beginTick h
    apply sim.endTick
    split
    · exact sim.advance (sim.look begun)
    · exact sim.park begun
  · exact h

/-- Every operation answers alike in both managers and keeps the relation. -/
theorem Ticks.ask (sim : Ticks R) (op : Op) (h : R b b') : Alike R (op.ask b) (op.ask b') := by
  cases op with
  | init linkUp => exact ⟨rfl, sim.init linkUp h⟩
  | enable linkUp => exact ⟨rfl, sim.enable linkUp h⟩
  | disable => exact ⟨rfl, sim.disable h⟩
  | tick linkUp => exact ⟨rfl, sim.tick linkUp h⟩
  | publish id topic payload => exact (sim.publish id topic payload h).map Answer.delivery
  | publishRecord record => exact (sim.publishRecord record h).map Answer.delivery
  | setEndpoint host port username password =>
    exact (sim.setEndpoint h host port username password).map Answer.outcome
  | clearEndpoint => exact (sim.clearEndpoint h).map Answer.outcome
  | testConnection => exact (sim.testConnection h).map Answer.tested

end Simulation

end Operations

end Telemetry.Broker
