import Telemetry.Proofs.Broker.Effect
import Telemetry.Proofs.Broker.Standing

/-!
# What the intent says of the broker manager

A manager that is on has an endpoint and shows another status than `disabled`; one that is off shows
`disabled`, or `error` if turning it on was refused, and nothing waits in its outbox. The endpoint is always
within its limits, and so is every payload that waits. This holds from the start on, whatever the store
contains, and every operation keeps it.

`Keeps limit b b'` says what the parts of an operation have in common: the store stays, the status does not
fall back to `disabled`, and payloads within the limit stay within it.
-/

namespace Telemetry

open Transport

namespace Endpoint

/-- The endpoint is within its limits, in bytes. -/
structure IsValid (e : Endpoint) : Prop where
  host : 1 ≤ e.host.utf8ByteSize ∧ e.host.utf8ByteSize ≤ 128
  port : e.port ≠ 0
  username : ∀ s ∈ e.username, 1 ≤ s.utf8ByteSize ∧ s.utf8ByteSize ≤ 64
  password : ∀ s ∈ e.password, 1 ≤ s.utf8ByteSize ∧ s.utf8ByteSize ≤ 64

theorem one_le_utf8ByteSize {s : String} (h : s.isEmpty = false) : 1 ≤ s.utf8ByteSize := by
  have : s.utf8ByteSize ≠ 0 := by simpa [String.isEmpty] using h
  omega

/-- A text that is left after empty ones were dropped is not empty, and it is short enough if it was found not
too long. -/
theorem isValid_of_filter {limit : Nat} {given : Option String}
    (h : isTooLong limit (given.filter fun s => !s.isEmpty) = false) :
    ∀ s ∈ given.filter fun s => !s.isEmpty, 1 ≤ s.utf8ByteSize ∧ s.utf8ByteSize ≤ limit := by
  intro s hs
  have notEmpty : s.isEmpty = false := by
    have := Option.mem_filter_iff.1 hs
    simpa using this.2
  refine ⟨one_le_utf8ByteSize notEmpty, ?_⟩
  rw [Option.mem_def.1 hs] at h
  simpa [isTooLong] using h

/-- What `make` yields is made of its arguments, less an empty user name or password. -/
theorem eq_of_make {host : String} {port : UInt16} {username password : Option String} {e : Endpoint}
    (h : make host port username password = .ok e) :
    host.isEmpty = false ∧ host.utf8ByteSize ≤ maxHost ∧ port ≠ 0 ∧
      isTooLong maxUsername e.username = false ∧ isTooLong maxPassword e.password = false ∧
      e = ⟨host, port, username.filter fun s => !s.isEmpty, password.filter fun s => !s.isEmpty⟩ := by
  unfold make at h
  dsimp only at h
  split at h
  · cases h
  · split at h
    · cases h
    · split at h
      · cases h
      · split at h
        · cases h
        · cases h
          simp_all

theorem isValid_of_make {host : String} {port : UInt16} {username password : Option String}
    {e : Endpoint} (h : make host port username password = .ok e) : e.IsValid := by
  obtain ⟨given, short, port, user, pass, rfl⟩ := eq_of_make h
  exact ⟨⟨one_le_utf8ByteSize given, short⟩, port, isValid_of_filter user, isValid_of_filter pass⟩

end Endpoint

namespace Outbox

/-- Every payload that waits is within the limit. -/
def Fits (limit : Nat) (q : Outbox) : Prop := ∀ e ∈ q.entries, e.payload.length ≤ limit

variable {limit : Nat} {q q' : Outbox}

theorem fits_empty (limit : Nat) : empty.Fits limit := by simp [Fits, empty]

theorem Fits.push {e : Entry} (h : q.Fits limit) (small : e.payload.length ≤ limit)
    (pushed : q.push e = .ok q') : q'.Fits limit := by
  intro f hf
  rw [entries_push pushed] at hf
  obtain hf | hf := List.mem_append.1 hf
  · exact h f hf
  · obtain rfl := List.mem_singleton.1 hf
    exact small

/-- An entry that stays keeps its payload. -/
theorem exists_of_mem_settle {es : List Entry} {answers : List Bool} {f : Entry}
    (h : f ∈ (settle es answers).2) : ∃ e ∈ es, f.payload = e.payload := by
  induction es generalizing answers with
  | nil => cases h
  | cons e rest ih =>
    have later : f ∈ (settle rest answers.tail).2 → ∃ e' ∈ e :: rest, f.payload = e'.payload := by
      intro hf
      obtain ⟨e', he, same⟩ := ih hf
      exact ⟨e', List.mem_cons_of_mem e he, same⟩
    unfold settle at h
    dsimp only at h
    split at h
    · exact later h
    · split at h
      · exact later h
      · obtain rfl | hf := List.mem_cons.1 h
        · exact ⟨e, List.mem_cons_self, rfl⟩
        · exact later hf

theorem Fits.drain (h : q.Fits limit) (answers : List Bool) : (q.drain answers).2.Fits limit := by
  intro f hf
  obtain hf | hf := List.mem_append.1 hf
  · exact h f (List.mem_of_mem_drop hf)
  · obtain ⟨e, he, same⟩ := exists_of_mem_settle hf
    rw [same]
    exact h e (List.mem_of_mem_take he)

end Outbox

namespace Broker

variable {β σ : Type}

/-- The way from `b` to `b'` leaves the store alone and neither turns the status to `disabled` nor makes
anything wait that is over the limit. -/
structure Keeps (limit : Nat) (b b' : Broker β σ) : Prop where
  store : b'.store = b.store
  shown : b.status ≠ .disabled → b'.status ≠ .disabled
  fits : b.outbox.Fits limit → b'.outbox.Fits limit

variable {limit : Nat} {b b' b'' : Broker β σ}

/-- What only changes other parts of the manager. -/
theorem Keeps.of_same (store : b'.store = b.store) (shown : b'.status = b.status)
    (outbox : b'.outbox = b.outbox) : Keeps limit b b' :=
  ⟨store, fun h => shown ▸ h, fun h => outbox ▸ h⟩

theorem Keeps.refl (b : Broker β σ) : Keeps limit b b := .of_same rfl rfl rfl

theorem Keeps.trans (h : Keeps limit b b') (h' : Keeps limit b' b'') : Keeps limit b b'' :=
  ⟨h'.store.trans h.store, fun shown => h'.shown (h.shown shown), fun fits => h'.fits (h.fits fits)⟩

/-! ## The parts of an operation -/

theorem keeps_notify (notice : Option Status) (b : Broker β σ) : Keeps limit b (b.notify notice) := by
  cases notice <;> exact .of_same rfl rfl rfl

theorem store_become (s : Status) (b : Broker β σ) : (b.become s).store = b.store :=
  (keeps_notify _ { b with indicator := (b.indicator.set s).1 } : Keeps 0 _ _).store

theorem keeps_become {s : Status} (h : s ≠ .disabled) (b : Broker β σ) :
    Keeps limit b (b.become s) := by
  refine ⟨store_become s b, fun _ => by rwa [status_become], fun fits => ?_⟩
  rwa [(quiet_become s b).outbox]

theorem keeps_endTick (b : Broker β σ) : Keeps limit b b.endTick := by
  have shown : Keeps limit b { b with indicator := b.indicator.endTick.1 } :=
    .of_same rfl (Indicator.status_endTick b.indicator) rfl
  exact shown.trans (keeps_notify _ _)

theorem keeps_report (id : UInt32) (d : Delivery) (b : Broker β σ) : Keeps limit b (b.report id d) := by
  unfold report
  split <;> exact .of_same rfl rfl rfl

theorem outbox_report (id : UInt32) (d : Delivery) (b : Broker β σ) :
    (b.report id d).outbox = b.outbox := by
  unfold report
  split <;> rfl

theorem keeps_reportOutcomes (os : List Outbox.Outcome) (b : Broker β σ) :
    Keeps limit b (os.foldl reportOutcome b) := by
  induction os generalizing b with
  | nil => exact .refl b
  | cons o os ih =>
    have first : Keeps limit b (b.reportOutcome o) := by
      cases o with
      | delivered id => exact keeps_report id .success b
      | dropped id => exact keeps_report id .dropped b
      | requeued id retries => exact .refl b
    exact first.trans (ih _)

/-- Emptying the outbox leaves nothing. -/
theorem outbox_discard (b : Broker β σ) : b.discard.outbox = .empty := by
  have reports : ∀ (es : List Outbox.Entry) (b : Broker β σ),
      (es.foldl (fun b e => b.report e.id .dropped) b).outbox = b.outbox := by
    intro es
    induction es with
    | nil => exact fun _ => rfl
    | cons e es ih => exact fun b => (ih _).trans (outbox_report _ _ b)
  exact reports b.outbox.entries _

theorem keeps_enqueue {e : Outbox.Entry} (small : e.payload.length ≤ limit) (b : Broker β σ) :
    Keeps limit b (b.enqueue e).2 := by
  unfold enqueue
  split
  · next outbox pushed => exact ⟨rfl, id, fun fits => fits.push small pushed⟩
  · exact .refl b

section Client

variable [Client β]

theorem keeps_sendEach (es : List Outbox.Entry) (b : Broker β σ) : Keeps limit b (b.sendEach es).2 := by
  induction es generalizing b with
  | nil => exact .refl b
  | cons e es ih =>
    have sent : Keeps limit b (b.send (message e)).2 := .of_same rfl rfl rfl
    exact sent.trans (ih _)

theorem requestStatus_ne_disabled (e : Endpoint) (b : Broker β σ) : b.requestStatus e ≠ .disabled := by
  obtain asked | refused := requestStatus_cases e b
  · simp [asked]
  · simp [refused]

theorem keeps_openSession (e : Endpoint) (b : Broker β σ) : Keeps limit b (b.openSession e) := by
  have requested : Keeps limit b (b.request e) := .of_same rfl rfl rfl
  exact requested.trans (keeps_become (requestStatus_ne_disabled e b) _)

theorem openSession_ne_disabled (e : Endpoint) (b : Broker β σ) :
    (b.openSession e).status ≠ .disabled := by
  rw [openSession_eq, status_become]
  exact requestStatus_ne_disabled e b

theorem connect_ne_disabled (b : Broker β σ) : b.connect.status ≠ .disabled := by
  unfold connect
  split
  · exact openSession_ne_disabled _ b
  · simp

theorem keeps_connect (b : Broker β σ) : Keeps limit b b.connect := by
  unfold connect
  split
  · exact keeps_openSession _ _
  · exact keeps_become (by decide) _

theorem keeps_reconnectIfDue (b : Broker β σ) : Keeps limit b b.reconnectIfDue := by
  unfold reconnectIfDue
  split
  · next backoff _ =>
    have polled : Keeps limit b { b with backoff } := .of_same rfl rfl rfl
    exact polled.trans (keeps_connect _)
  · exact .refl b

theorem keeps_drain (b : Broker β σ) : Keeps limit b b.drain := by
  let sent := b.sendEach b.outbox.due
  let drained : Broker β σ := { sent.2 with outbox := (b.outbox.drain sent.1).2 }
  have sends : Keeps limit b sent.2 := keeps_sendEach b.outbox.due b
  have settled : Keeps limit b drained := ⟨sends.store, sends.shown, fun fits => fits.drain sent.1⟩
  exact settled.trans (keeps_reportOutcomes _ drained)

theorem keeps_park (b : Broker β σ) : Keeps limit b b.park := by
  have closed : Keeps limit b (if b.status.isActive then b.closeSession else b) := by
    split <;> exact .of_same rfl rfl rfl
  have reset : ∀ c : Broker β σ, Keeps limit c c.resetBackoff := fun _ => .of_same rfl rfl rfl
  exact closed.trans ((keeps_become (by decide) _).trans (reset _))

theorem keeps_advance (b : Broker β σ) : Keeps limit b b.advance := by
  have reset : ∀ c : Broker β σ, Keeps limit c c.resetBackoff := fun _ => .of_same rfl rfl rfl
  have closed : Keeps limit b b.closeSession := .of_same rfl rfl rfl
  unfold advance
  split
  · split
    · have connected := (keeps_become (s := .connected) (by decide) b).trans (reset _)
      have announced : ∀ (m : Message) (c : Broker β σ), Keeps limit c (c.send m).2 :=
        fun _ _ => .of_same rfl rfl rfl
      exact connected.trans ((announced _ _).trans (keeps_drain _))
    · split
      · exact closed.trans ((keeps_become (by decide) _).trans (keeps_reconnectIfDue _))
      · exact .refl b
  · split
    · exact keeps_drain b
    · exact ((keeps_become (by decide) b).trans (reset _)).trans (keeps_reconnectIfDue _)
  · exact keeps_reconnectIfDue b
  · exact keeps_reconnectIfDue b
  · exact .refl b

theorem keeps_tick (linkUp : Bool) (b : Broker β σ) : Keeps limit b (b.tick linkUp) := by
  have begun : Keeps limit b b.beginTick := .of_same rfl rfl rfl
  have looked : Keeps limit b.beginTick b.beginTick.look := .of_same rfl rfl rfl
  unfold tick
  split
  · refine begun.trans (Keeps.trans ?_ (keeps_endTick _))
    split
    · exact looked.trans (keeps_advance _)
    · exact keeps_park _
  · exact .refl b

theorem keeps_deliver (id : UInt32) (topic : String) (payload : List UInt8) (b : Broker β σ) :
    Keeps b.settings.maxPayloadBytes b (b.deliver id topic payload).2 := by
  unfold deliver
  split
  · exact .refl b
  · next passed =>
    have small : payload.length ≤ b.settings.maxPayloadBytes := by
      simp only [Bool.or_eq_true, decide_eq_true_eq, not_or] at passed
      omega
    split
    · have sent : Keeps b.settings.maxPayloadBytes b (b.send { topic, payload, retain := true }).2 :=
        .of_same rfl rfl rfl
      dsimp only
      split
      · exact sent
      · exact sent.trans (keeps_enqueue small _)
    · exact keeps_enqueue small b

theorem keeps_publish (id : UInt32) (topic : String) (payload : List UInt8) (b : Broker β σ) :
    Keeps b.settings.maxPayloadBytes b (b.publish id topic payload).2 :=
  (keeps_deliver id topic payload b).trans (keeps_report _ _ _)

theorem keeps_publishRecord (r : Record) (b : Broker β σ) :
    Keeps b.settings.maxPayloadBytes b (b.publishRecord r).2 := by
  unfold publishRecord
  split
  · exact keeps_publish _ _ _ b
  · exact keeps_report _ _ b

theorem keeps_testConnection (b : Broker β σ) : Keeps limit b b.testConnection.2 := by
  unfold testConnection
  split <;> exact .of_same rfl rfl rfl

theorem outbox_testConnection (b : Broker β σ) : b.testConnection.2.outbox = b.outbox := by
  unfold testConnection
  split <;> rfl

/-- A manager that is off takes no message. -/
theorem outbox_publish_of_off (off : b.enabled = false) (id : UInt32) (topic : String)
    (payload : List UInt8) : (b.publish id topic payload).2.outbox = b.outbox := by
  have refused : b.deliver id topic payload = (.dropped, b) := by simp [deliver, off]
  rw [publish, refused]
  exact outbox_report _ _ b

theorem outbox_publishRecord_of_off (off : b.enabled = false) (r : Record) :
    (b.publishRecord r).2.outbox = b.outbox := by
  unfold publishRecord
  split
  · exact outbox_publish_of_off off _ _ _
  · exact outbox_report _ _ b

/-! ## Turning on and off -/

section Storage

variable [Storage σ]

/-- The manager with the intent to be on, also in the store. -/
def turnOn (b : Broker β σ) : Broker β σ := { b with enabled := true }.persist true

/-- The manager with the intent to be off, also in the store. -/
def turnOff (b : Broker β σ) : Broker β σ := { b with enabled := false }.persist false

/-- What comes of turning the manager on. -/
inductive Enables (b b' : Broker β σ) : Prop
  | busy (on : b.enabled = true) (same : b' = b)
  | refuses (missing : b.endpoint = none) (quiet : Quiet b b') (same : Same b b')
      (store : b'.store = b.store) (status : b'.status = .error)
  | starts (found : b.endpoint.isSome = true) (quiet : Quiet b.turnOn b') (same : Same b.turnOn b')
      (store : b'.store = b.turnOn.store) (shown : b'.status ≠ .disabled)

theorem enables_enable (linkUp : Bool) (b : Broker β σ) : Enables b (b.enable linkUp) := by
  unfold enable
  split
  · next busy => exact .busy (Bool.and_eq_true_iff.1 busy).1 rfl
  · split
    · next missing =>
      have none : b.endpoint = none := by simpa [isConfigured] using missing
      exact .refuses none (quiet_become _ b) (same_become _ b) (store_become _ b) (status_become _ b)
    · next configured =>
      have found : b.endpoint.isSome = true := by
        simpa [isConfigured, Option.isSome_iff_ne_none] using configured
      have quiet : Quiet b.turnOn b.turnOn.resetBackoff := quiet_resetBackoff _
      have same : Same b.turnOn b.turnOn.resetBackoff := ⟨rfl, rfl, rfl, rfl⟩
      dsimp only
      split
      · exact .starts found (quiet.trans (quiet_connect _)) (same.trans (same_connect _))
          (keeps_connect _ : Keeps 0 _ _).store (connect_ne_disabled _)
      · exact .starts found (quiet.trans (quiet_become _ _)) (same.trans (same_become _ _))
          (store_become _ _) (by simp)

/-- What comes of turning the manager off. -/
structure Disables (b b' : Broker β σ) : Prop where
  same : Same b.turnOff b'
  store : b'.store = b.turnOff.store
  outbox : b'.outbox = .empty
  status : b'.status = .disabled

theorem disables_disable (b : Broker β σ) : Disables b b.disable := by
  let closed : Broker β σ := { b with enabled := false }.closeSession
  have discarded := outward_discard closed
  have same : Same b.turnOff (closed.discard.persist false) := by
    have := discarded.same
    exact ⟨this.settings, this.topics, this.endpoint, this.enabled⟩
  refine ⟨same.trans (same_become _ _), ?_, ?_, status_become _ _⟩
  · rw [disable, store_become]
    exact congrArg (fun s => (Storage.put Store.brokerEnabled (some (.bool false)) s).2) discarded.store
  · rw [disable, (quiet_become _ _).outbox]
    exact outbox_discard closed

/-- The manager, turned off if it was on. -/
def ensureOff (b : Broker β σ) : Broker β σ := if b.enabled then b.disable else b

@[simp] theorem enabled_ensureOff (b : Broker β σ) : b.ensureOff.enabled = false := by
  unfold ensureOff
  split
  · exact (disables_disable b).same.enabled
  · next off => simpa using off

/-- The endpoint is forgotten, or only the store has changed since the manager is off. -/
theorem clearEndpoint_cases (b : Broker β σ) :
    (∃ e store, b.clearEndpoint = (.error e, { b.ensureOff with store })) ∨
    ∃ store, b.clearEndpoint = (.ok (), { b.ensureOff with store, endpoint := none }) := by
  unfold clearEndpoint
  dsimp only
  split
  · next e _ => exact .inl ⟨.storage e, _, rfl⟩
  · exact .inr ⟨_, rfl⟩

end Storage

end Client

/-! ## The invariant -/

structure Sound (b : Broker β σ) : Prop where
  on : b.enabled = true → b.endpoint.isSome = true ∧ b.status ≠ .disabled
  off : b.enabled = false → (b.status = .disabled ∨ b.status = .error) ∧ b.outbox = .empty
  valid : ∀ e ∈ b.endpoint, e.IsValid
  fits : b.outbox.Fits b.settings.maxPayloadBytes

/-- Parts that leave the set-up alone keep the invariant, if they do nothing on a manager that is off. -/
theorem Sound.of_keeps (h : Sound b) (same : Same b b') (keeps : Keeps b.settings.maxPayloadBytes b b')
    (off : b.enabled = false → b'.status = b.status ∧ b'.outbox = b.outbox) : Sound b' := by
  refine ⟨?_, ?_, ?_, ?_⟩
  · intro on
    rw [same.enabled] at on
    exact ⟨same.endpoint ▸ (h.on on).1, keeps.shown (h.on on).2⟩
  · intro disabled
    rw [same.enabled] at disabled
    obtain ⟨status, outbox⟩ := off disabled
    rw [status, outbox]
    exact h.off disabled
  · rw [same.endpoint]
    exact h.valid
  · rw [same.settings]
    exact keeps.fits h.fits

theorem sound_load [Storage σ] (settings : Settings.Broker) (deviceId : String) (watched : Bool)
    (client : β) (board : Board σ) : Sound (load settings deviceId watched client board) := by
  refine ⟨by simp [load], fun _ => ⟨.inl rfl, rfl⟩, ?_, Outbox.fits_empty _⟩
  intro e (he : stored? board.store = some e)
  unfold stored? at he
  split at he
  · split at he
    · unfold Except.toOption at he
      split at he
      · next made =>
        cases he
        exact Endpoint.isValid_of_make made
      · cases he
    · cases he
  · cases he

theorem Sound.setEndpoint [Storage σ] (h : Sound b) (host : String) (port : UInt16)
    (username password : Option String) : Sound (b.setEndpoint host port username password).2 := by
  obtain ⟨e, store, refused⟩ | ⟨e, store, made, adopted⟩ := setEndpoint_cases host port username password b
  · rw [refused]
    exact ⟨h.on, h.off, h.valid, h.fits⟩
  · rw [adopted]
    refine ⟨fun on => ⟨rfl, (h.on on).2⟩, h.off, ?_, h.fits⟩
    rintro d ⟨⟩
    exact Endpoint.isValid_of_make made

variable [Client β]

theorem Sound.tick (h : Sound b) (linkUp : Bool) : Sound (b.tick linkUp) := by
  refine h.of_keeps (same_tick linkUp b) (keeps_tick linkUp b) fun off => ?_
  rw [Broker.tick, off]
  exact ⟨rfl, rfl⟩

variable [Storage σ]

theorem Sound.enable (h : Sound b) (linkUp : Bool) : Sound (b.enable linkUp) := by
  cases enables_enable linkUp b with
  | busy busy same => rwa [same]
  | refuses missing quiet same store status =>
    have off : b.enabled = false := by
      cases on : b.enabled with
      | false => rfl
      | true => simpa [missing] using (h.on on).1
    refine ⟨fun on => ?_, fun _ => ⟨.inr status, quiet.outbox.trans (h.off off).2⟩, ?_, ?_⟩
    · simp [same.enabled, off] at on
    · rw [same.endpoint]
      exact h.valid
    · rw [quiet.outbox, same.settings]
      exact h.fits
  | starts found quiet same store shown =>
    refine ⟨fun _ => ⟨?_, shown⟩, fun off => ?_, ?_, ?_⟩
    · rw [same.endpoint]
      exact found
    · rw [same.enabled] at off
      cases off
    · rw [same.endpoint]
      exact h.valid
    · rw [quiet.outbox, same.settings]
      exact h.fits

theorem Sound.disable (h : Sound b) : Sound b.disable := by
  have parts := disables_disable b
  refine ⟨fun on => ?_, fun _ => ⟨.inl parts.status, parts.outbox⟩, ?_, ?_⟩
  · rw [parts.same.enabled] at on
    cases on
  · rw [parts.same.endpoint]
    exact h.valid
  · rw [parts.outbox]
    exact Outbox.fits_empty _

theorem Sound.init (h : Sound b) (linkUp : Bool) : Sound (b.init linkUp) := by
  unfold Broker.init
  split
  · exact h.enable linkUp
  · exact h

theorem Sound.ensureOff (h : Sound b) : Sound b.ensureOff := by
  unfold Broker.ensureOff
  split
  · exact h.disable
  · exact h

/-- The manager is off before its endpoint is forgotten, so it does not miss it. -/
theorem Sound.clearEndpoint (h : Sound b) : Sound b.clearEndpoint.2 := by
  have off := h.ensureOff
  obtain ⟨e, store, refused⟩ | ⟨store, cleared⟩ := clearEndpoint_cases b
  · rw [refused]
    exact ⟨off.on, off.off, off.valid, off.fits⟩
  · rw [cleared]
    exact ⟨fun on => absurd on (Bool.eq_false_iff.1 (enabled_ensureOff b)), off.off, by simp, off.fits⟩

theorem Sound.perform (h : Sound b) (op : Op) : Sound (op.perform b).2 := by
  cases op with
  | init linkUp => exact h.init linkUp
  | enable linkUp => exact h.enable linkUp
  | disable => exact h.disable
  | tick linkUp => exact h.tick linkUp
  | publish id topic payload =>
    have outward := outward_publish id topic payload b
    exact h.of_keeps outward.same (keeps_publish id topic payload b) fun off =>
      ⟨outward.status, outbox_publish_of_off off id topic payload⟩
  | publishRecord record =>
    have outward := outward_publishRecord record b
    exact h.of_keeps outward.same (keeps_publishRecord record b) fun off =>
      ⟨outward.status, outbox_publishRecord_of_off off record⟩
  | setEndpoint host port username password => exact h.setEndpoint host port username password
  | clearEndpoint => exact h.clearEndpoint
  | testConnection =>
    have outward := outward_testConnection b
    exact h.of_keeps outward.same (keeps_testConnection b) fun _ => ⟨outward.status, outbox_testConnection b⟩

theorem Sound.run (h : Sound b) (steps : List (Step β σ)) : Sound (run steps b) := by
  induction steps generalizing b with
  | nil => exact h
  | cons s steps ih =>
    have met : Sound (b.meet s) := ⟨h.on, h.off, h.valid, h.fits⟩
    exact ih (met.perform s.op)

end Broker
end Telemetry
