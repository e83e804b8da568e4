import Telemetry.Proofs.Broker.Sound
import Telemetry.Proofs.Link.Off

/-!
# A broker manager that is off

Turning the broker manager off closes the session and drops what waits. From then on nothing is sent or taken in
until it is turned on or restored from the store, and its watcher is told no status.
-/

namespace Telemetry.Broker

variable {β σ : Type}

/-- The operations that may turn the manager on. -/
def Op.isStarter : Op → Bool
  | init _ | enable _ => true
  | _ => false

structure IsOff (b : Broker β σ) : Prop where
  enabled : b.enabled = false
  status : b.status = .disabled
  outbox : b.outbox = .empty

variable {b b' : Broker β σ}

theorem become_of_status {s : Status} (h : b.status = s) : b.become s = b := by
  have shown : b.indicator.set s = (b.indicator, none) := if_pos h
  rw [become, shown]
  rfl

theorem client_become (s : Status) (b : Broker β σ) : (b.become s).client = b.client := by
  dsimp only [become, notify]
  split <;> rfl

/-- On the way the manager stayed off, and what happened is idle. -/
structure StaysOff (b b' : Broker β σ) : Prop extends IsOff b' where
  idle : ∃ es, b'.trace = b.trace ++ es ∧ ∀ e ∈ es, e.isIdle = true

/-- What leaves the intent, the status, the outbox and the trace alone. -/
theorem StaysOff.of_same (off : IsOff b) (enabled : b'.enabled = b.enabled) (indicator : b'.indicator = b.indicator)
    (outbox : b'.outbox = b.outbox) (trace : b'.trace = b.trace) : StaysOff b b' where
  enabled := enabled.trans off.enabled
  status := (congrArg Indicator.status indicator).trans off.status
  outbox := outbox.trans off.outbox
  idle := ⟨[], by rw [trace, List.append_nil], nofun⟩

theorem StaysOff.refl (off : IsOff b) : StaysOff b b := .of_same off rfl rfl rfl rfl

theorem StaysOff.report (off : IsOff b) (id : UInt32) (d : Delivery) : StaysOff b (b.report id d) := by
  unfold Broker.report
  split
  · exact ⟨⟨off.enabled, off.status, off.outbox⟩, [.report id d], rfl, by simp [Event.isIdle]⟩
  · exact .refl off

/-- What the senders of entries that are dropped are told. -/
def droppedEvents (b : Broker β σ) : List Event :=
  if b.reporting then b.outbox.entries.map fun e => .report e.id .dropped else []

/-- Discarding tells the senders in the order in which their messages wait, and empties the outbox. -/
theorem discard_eq (b : Broker β σ) :
    b.discard = { b with outbox := .empty, trace := b.trace ++ b.droppedEvents } := by
  have each : ∀ (es : List Outbox.Entry) (c : Broker β σ),
      es.foldl (fun c e => c.report e.id .dropped) c =
        { c with trace := c.trace ++ if c.reporting then es.map fun e => .report e.id .dropped else [] } := by
    intro es
    induction es with
    | nil => intro c; simp
    | cons e es ih =>
      intro c
      rw [List.foldl_cons, ih, Broker.report]
      split <;> simp_all [record]
  exact each b.outbox.entries _

theorem reports_droppedEvents (b : Broker β σ) : Event.reports b.droppedEvents =
    if b.reporting then b.outbox.entries.map fun e => (e.id, .dropped) else [] := by
  unfold droppedEvents
  split
  · induction b.outbox.entries with
    | nil => rfl
    | cons e es ih => exact congrArg _ ih
  · rfl

variable [Client β]

/-- A manager that is off drops what it is to publish. -/
theorem publish_of_off (off : b.enabled = false) (id : UInt32) (topic : String) (payload : List UInt8) :
    b.publish id topic payload = (.dropped, b.report id .dropped) := by
  have refused : b.deliver id topic payload = (.dropped, b) := by simp [deliver, off]
  rw [publish, refused]

theorem publishRecord_of_off (off : b.enabled = false) (r : Record) :
    b.publishRecord r = (.dropped, b.report r.id .dropped) := by
  unfold publishRecord
  split
  · exact publish_of_off off _ _ _
  · rfl

theorem tick_of_off (off : b.enabled = false) (linkUp : Bool) : b.tick linkUp = b := by
  rw [tick, off]
  rfl

theorem testConnection_of_off (off : IsOff b) : b.testConnection = (false, b) := by
  have down : b.isConnected = false := by simp [isConnected, off.status, Status.isConnected]
  simp [testConnection, down]

variable [Storage σ]

/-- The manager with its session closed and its outbox discarded, before its status is shown. -/
def shutDown (b : Broker β σ) : Broker β σ :=
  ({ b with enabled := false }.closeSession.discard).persist false

theorem trace_shutDown (b : Broker β σ) : b.shutDown.trace = b.trace ++ .closeSession :: b.droppedEvents := by
  rw [shutDown, discard_eq]
  exact List.append_assoc b.trace [.closeSession] b.droppedEvents

theorem client_disable (b : Broker β σ) : b.disable.client = Client.disconnect b.client := by
  change (b.shutDown.become .disabled).client = _
  rw [client_become, shutDown, discard_eq]
  rfl

/-- The session is closed and each entry that waits is reported as dropped, in order. -/
theorem told_disable (b : Broker β σ) : ∃ es, b.disable.trace = b.trace ++ .closeSession :: es ∧
    Event.reports es = if b.reporting then b.outbox.entries.map fun e => (e.id, .dropped) else [] := by
  obtain ⟨es, shown, -, silent⟩ := (quiet_become .disabled b.shutDown).told
  refine ⟨b.droppedEvents ++ es, ?_, ?_⟩
  · change (b.shutDown.become .disabled).trace = _
    rw [shown, trace_shutDown, List.append_assoc, List.cons_append]
  · rw [Event.reports_append, reports_droppedEvents, silent, List.append_nil]

theorem isOff_disable (b : Broker β σ) : IsOff b.disable :=
  have parts := disables_disable b
  ⟨parts.same.enabled, parts.status, parts.outbox⟩

/-- Turned off again, a manager that is off closes the session once more. -/
theorem staysOff_disable (off : IsOff b) : StaysOff b b.disable := by
  -- Nothing waits, and the status is shown already.
  have nothing : b.droppedEvents = [] := by simp [droppedEvents, off.outbox, Outbox.empty]
  have shown : b.shutDown.status = .disabled := by
    rw [shutDown, discard_eq]
    exact off.status
  have same : b.disable = b.shutDown := become_of_status shown
  refine ⟨isOff_disable b, [.closeSession], ?_, by decide⟩
  rw [same, trace_shutDown, nothing]

omit [Client β] in
theorem staysOff_setEndpoint (off : IsOff b) (host : String) (port : UInt16)
    (username password : Option String) : StaysOff b (b.setEndpoint host port username password).2 := by
  obtain ⟨e, store, refused⟩ | ⟨e, store, -, adopted⟩ := setEndpoint_cases host port username password b
  · rw [refused]
    exact .of_same off rfl rfl rfl rfl
  · rw [adopted]
    exact .of_same off rfl rfl rfl rfl

theorem staysOff_clearEndpoint (off : IsOff b) : StaysOff b b.clearEndpoint.2 := by
  have already : b.ensureOff = b := if_neg (by simp [off.enabled])
  obtain ⟨e, store, refused⟩ | ⟨store, cleared⟩ := clearEndpoint_cases b
  · rw [refused, already]
    exact .of_same off rfl rfl rfl rfl
  · rw [cleared, already]
    exact .of_same off rfl rfl rfl rfl

theorem StaysOff.perform (off : IsOff b) {op : Op} (h : op.isStarter = false) :
    StaysOff b (op.perform b).2 ∧ ∀ d, (op.perform b).1 = some d → d = .dropped := by
  have silent : ∀ d : Delivery, none = some d → d = .dropped := by
    rintro d ⟨⟩
  cases op with
  | init _ | enable _ => cases h
  | disable => exact ⟨staysOff_disable off, silent⟩
  | tick linkUp =>
    refine ⟨?_, silent⟩
    rw [show ((Op.tick linkUp).perform b).2 = b from tick_of_off off.enabled linkUp]
    exact .refl off
  | publish id topic payload =>
    simp only [Op.perform, publish_of_off off.enabled]
    refine ⟨.report off _ _, ?_⟩
    rintro d ⟨⟩
    rfl
  | publishRecord r =>
    simp only [Op.perform, publishRecord_of_off off.enabled]
    refine ⟨.report off _ _, ?_⟩
    rintro d ⟨⟩
    rfl
  | setEndpoint host port username password =>
    exact ⟨staysOff_setEndpoint off host port username password, silent⟩
  | clearEndpoint => exact ⟨staysOff_clearEndpoint off, silent⟩
  | testConnection =>
    refine ⟨?_, silent⟩
    change StaysOff b b.testConnection.2
    rw [testConnection_of_off off]
    exact .refl off

/-- Until a starter comes, each turn finds the manager off, leaves it so, and drops what is to be published. -/
theorem staysOff_turns (off : IsOff b) {steps : List (Step β σ)} (h : ∀ s ∈ steps, s.op.isStarter = false) :
    ∀ t ∈ turns steps b, StaysOff t.before t.after ∧ ∀ d, t.answer = some d → d = .dropped := by
  induction steps generalizing b with
  | nil => exact fun _ ht => absurd ht List.not_mem_nil
  | cons s steps ih =>
    obtain ⟨first, rest⟩ := List.forall_mem_cons.1 h
    have met : IsOff (b.meet s) := ⟨off.enabled, off.status, off.outbox⟩
    have stays := StaysOff.perform met first
    exact List.forall_mem_cons.2 ⟨stays, ih stays.1.toIsOff rest⟩

/-- The events of a turn on which the manager stays off. -/
theorem StaysOff.events {t : Turn β σ} (h : StaysOff t.before t.after) : ∀ e ∈ t.events, e.isIdle = true := by
  obtain ⟨es, trace, idle⟩ := h.idle
  rw [Turn.events, trace, List.drop_left]
  exact idle

end Telemetry.Broker
