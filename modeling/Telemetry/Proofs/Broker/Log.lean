import Telemetry.Proofs.Broker.Sound

/-!
# The log of the broker manager

Every part of an operation adds events to the trace. `Logs P b b'` says that on the way from `b` to `b'` only events
with the property `P` were added. Whether an operation logs only such events depends on whether `P` admits the
requests for a session that it may make.
-/

namespace Telemetry

open Transport

/-- Is the event a request for a session? -/
def Event.IsOpening : Event → Prop
  | .openSession _ _ => True
  | _ => False

instance : DecidablePred Event.IsOpening
  | .openSession _ _ => .isTrue trivial
  | .associate _ _ _ | .dissociate _ | .closeSession | .send _ _ | .mainLine _ _ | .companionLine _ _ | .linkNotice _
  | .brokerNotice _ | .report _ _ => .isFalse id

/-- The second trace goes on from the first one with events that all have the property `P`. -/
def Grows (P : Event → Prop) (t t' : List Event) : Prop := ∃ es, t' = t ++ es ∧ ∀ e ∈ es, P e

variable {P Q : Event → Prop} {t t' t'' : List Event}

theorem Grows.refl (t : List Event) : Grows P t t := ⟨[], by simp, nofun⟩

theorem Grows.trans (h : Grows P t t') (h' : Grows P t' t'') : Grows P t t'' := by
  obtain ⟨es, rfl, hP⟩ := h
  obtain ⟨es', rfl, hP'⟩ := h'
  refine ⟨es ++ es', List.append_assoc t es es', ?_⟩
  intro e mem
  obtain mem | mem := List.mem_append.1 mem
  · exact hP e mem
  · exact hP' e mem

theorem Grows.mono (h : Grows P t t') (weaker : ∀ e, P e → Q e) : Grows Q t t' := by
  obtain ⟨es, rfl, hP⟩ := h
  exact ⟨es, rfl, fun e mem => weaker e (hP e mem)⟩

theorem grows_snoc {e : Event} (h : P e) (t : List Event) : Grows P t (t ++ [e]) :=
  ⟨[e], rfl, by simpa using h⟩

namespace Broker

variable {β σ : Type}

def Logs (P : Event → Prop) (b b' : Broker β σ) : Prop := Grows P b.trace b'.trace

/-- The events that are not looked at more closely. -/
structure Admits (P : Event → Prop) : Prop where
  closing : P .closeSession
  notice : ∀ s, s ≠ .connected → P (.brokerNotice s)
  report : ∀ id delivery, P (.report id delivery)

/-- The requests for a session that the manager may make. -/
def Permits (P : Event → Prop) (b : Broker β σ) : Prop :=
  ∀ e, b.endpoint = some e → ∀ answer, P (.openSession (b.connectOptions e) answer)

variable {b b' b'' : Broker β σ}

theorem Logs.of_same (trace : b'.trace = b.trace) : Logs P b b' := by
  rw [Logs, trace]
  exact .refl _

theorem Logs.refl (b : Broker β σ) : Logs P b b := Grows.refl _

theorem Logs.trans (h : Logs P b b') (h' : Logs P b' b'') : Logs P b b'' := Grows.trans h h'

theorem Permits.of_same (h : Permits P b) (same : Same b b') : Permits P b' := by
  intro e found answer
  rw [same.endpoint] at found
  have options : b'.connectOptions e = b.connectOptions e := by
    rw [connectOptions, connectOptions, same.settings, same.topics]
  rw [options]
  exact h e found answer

/-! ## The parts of an operation -/

theorem logs_record {e : Event} (h : P e) (b : Broker β σ) : Logs P b (b.record e) :=
  grows_snoc h b.trace

theorem logs_notify {notice : Option Status} (h : ∀ s ∈ notice, P (.brokerNotice s)) (b : Broker β σ) :
    Logs P b (b.notify notice) := by
  cases notice with
  | none => exact .refl b
  | some s => exact logs_record (h s rfl) b

theorem logs_become {s : Status} (h : P (.brokerNotice s)) (b : Broker β σ) : Logs P b (b.become s) := by
  have shown : Logs P b { b with indicator := (b.indicator.set s).1 } := .of_same rfl
  refine shown.trans (logs_notify ?_ _)
  intro told mem
  obtain rfl : told = s := by
    unfold Indicator.set Indicator.announce at mem
    grind
  exact h

theorem logs_report (told : ∀ id delivery, P (.report id delivery)) (id : UInt32) (d : Delivery) (b : Broker β σ) :
    Logs P b (b.report id d) := by
  unfold report
  split
  · exact logs_record (told id d) b
  · exact .refl b

theorem logs_reportOutcomes (told : ∀ id delivery, P (.report id delivery)) (os : List Outbox.Outcome)
    (b : Broker β σ) : Logs P b (os.foldl reportOutcome b) := by
  induction os generalizing b with
  | nil => exact .refl b
  | cons o os ih =>
    cases o with
    | delivered id => exact (logs_report told id .success b).trans (ih _)
    | dropped id => exact (logs_report told id .dropped b).trans (ih _)
    | requeued id retries => exact ih b

theorem logs_discard (told : ∀ id delivery, P (.report id delivery)) (b : Broker β σ) : Logs P b b.discard := by
  have reports : ∀ (es : List Outbox.Entry) (b : Broker β σ),
      Logs P b (es.foldl (fun b e => b.report e.id .dropped) b) := by
    intro es
    induction es with
    | nil => exact fun b => .refl b
    | cons e es ih => exact fun b => (logs_report told e.id .dropped b).trans (ih _)
  have emptied : Logs P b { b with outbox := .empty } := .of_same rfl
  exact emptied.trans (reports b.outbox.entries _)

theorem logs_setEndpoint [Storage σ] (host : String) (port : UInt16) (username password : Option String)
    (b : Broker β σ) : Logs P b (b.setEndpoint host port username password).2 := by
  obtain ⟨e, store, refused⟩ | ⟨e, store, -, adopted⟩ := setEndpoint_cases host port username password b
  · rw [refused]
    exact .of_same rfl
  · rw [adopted]
    exact .of_same rfl

section Client

variable [Client β]

theorem logs_closeSession (admits : Admits P) (b : Broker β σ) : Logs P b b.closeSession := by
  have closed : Logs P b { b with client := Client.disconnect b.client } := .of_same rfl
  exact closed.trans (logs_record admits.closing _)

theorem logs_send {m : Message} (h : ∀ answer, P (.send m answer)) (b : Broker β σ) :
    Logs P b (b.send m).2 := grows_snoc (h _) b.trace

theorem logs_sendEach {es : List Outbox.Entry} (h : ∀ e ∈ es, ∀ answer, P (.send (message e) answer))
    (b : Broker β σ) : Logs P b (b.sendEach es).2 := by
  induction es generalizing b with
  | nil => exact .refl b
  | cons e es ih =>
    have first := logs_send (h e List.mem_cons_self) b
    exact first.trans (ih (fun d mem => h d (List.mem_cons_of_mem e mem)) _)

theorem logs_drain (told : ∀ id delivery, P (.report id delivery)) (b : Broker β σ)
    (h : ∀ e ∈ b.outbox.due, ∀ answer, P (.send (message e) answer)) : Logs P b b.drain := by
  have sent := logs_sendEach h b
  have settled : Logs P (b.sendEach b.outbox.due).2
      { (b.sendEach b.outbox.due).2 with outbox := (b.outbox.drain (b.sendEach b.outbox.due).1).2 } :=
    .of_same rfl
  exact (sent.trans settled).trans (logs_reportOutcomes told _ _)

theorem logs_openSession (admits : Admits P) {e : Endpoint} (b : Broker β σ)
    (h : ∀ answer, P (.openSession (b.connectOptions e) answer)) : Logs P b (b.openSession e) := by
  have requested : Logs P b (b.request e) := grows_snoc (h _) b.trace
  have shown : b.requestStatus e ≠ .connected := by
    obtain asked | refused := requestStatus_cases e b
    · simp [asked]
    · simp [refused]
  exact requested.trans (logs_become (admits.notice _ shown) _)

theorem logs_connect (admits : Admits P) (permits : Permits P b) : Logs P b b.connect := by
  unfold connect
  split
  · next e found => exact logs_openSession admits b (permits e found)
  · exact logs_become (admits.notice .error (by decide)) b

theorem logs_reconnectIfDue (admits : Admits P) (permits : Permits P b) : Logs P b b.reconnectIfDue := by
  unfold reconnectIfDue
  split
  · next backoff _ =>
    have polled : Logs P b { b with backoff } := .of_same rfl
    exact polled.trans (logs_connect admits permits)
  · exact .refl b

theorem logs_park (admits : Admits P) (b : Broker β σ) : Logs P b b.park := by
  have closed : Logs P b (if b.status.isActive then b.closeSession else b) := by
    split
    · exact logs_closeSession admits b
    · exact .refl b
  have reset : ∀ c : Broker β σ, Logs P c c.resetBackoff := fun _ => .of_same rfl
  exact closed.trans ((logs_become (admits.notice .error (by decide)) _).trans (reset _))

/-- A session that was requested too long ago, or is lost, is given up before the next request. -/
theorem logs_giveUp (admits : Admits P) (permits : Permits P b) :
    Logs P b (b.closeSession.become .disconnected).reconnectIfDue ∧
      Logs P b ((b.become .disconnected).resetBackoff).reconnectIfDue := by
  have notice := admits.notice .disconnected (by decide)
  have reset : ∀ c : Broker β σ, Logs P c c.resetBackoff := fun _ => .of_same rfl
  have overdue : Same b (b.closeSession.become .disconnected) :=
    (show Same b b.closeSession from ⟨rfl, rfl, rfl, rfl⟩).trans (same_become _ _)
  have lost : Same b ((b.become .disconnected).resetBackoff) := by
    have shown := same_become .disconnected b
    exact ⟨shown.settings, shown.topics, shown.endpoint, shown.enabled⟩
  refine ⟨?_, ?_⟩
  · have closed := (logs_closeSession admits b).trans (logs_become notice _)
    exact closed.trans (logs_reconnectIfDue admits (permits.of_same overdue))
  · have shown := (logs_become notice b).trans (reset _)
    exact shown.trans (logs_reconnectIfDue admits (permits.of_same lost))

/-! ## Turning on and off -/

section Storage

variable [Storage σ]

theorem logs_enable (admits : Admits P) {linkUp : Bool} (permits : linkUp = true → Permits P b) :
    Logs P b (b.enable linkUp) := by
  have notice := admits.notice .error (by decide)
  unfold enable
  split
  · exact .refl b
  · split
    · exact logs_become notice b
    · have on : Logs P b (({ b with enabled := true }.persist true).resetBackoff) := .of_same rfl
      dsimp only
      split
      · next up => exact on.trans (logs_connect admits (permits up))
      · exact on.trans (logs_become notice _)

theorem logs_init (admits : Admits P) {linkUp : Bool} (permits : linkUp = true → Permits P b) :
    Logs P b (b.init linkUp) := by
  unfold init
  split
  · exact logs_enable admits permits
  · exact .refl b

theorem logs_disable (admits : Admits P) (b : Broker β σ) : Logs P b b.disable := by
  have off : Logs P b { b with enabled := false } := .of_same rfl
  have closed := (off.trans (logs_closeSession admits _)).trans (logs_discard admits.report _)
  have kept : ∀ c : Broker β σ, Logs P c (c.persist false) := fun _ => .of_same rfl
  exact closed.trans ((kept _).trans (logs_become (admits.notice .disabled (by decide)) _))

theorem logs_clearEndpoint (admits : Admits P) (b : Broker β σ) : Logs P b b.clearEndpoint.2 := by
  have off : Logs P b b.ensureOff := by
    unfold ensureOff
    split
    · exact logs_disable admits b
    · exact .refl b
  have forgot : Logs P b.ensureOff b.clearEndpoint.2 := by
    unfold clearEndpoint
    dsimp only
    split <;> exact .of_same rfl
  exact off.trans forgot

end Storage

/-! ## Whole operations -/

/-- Whether the link is said to be up, where that is said. -/
def Op.linkUp? : Op → Option Bool
  | init linkUp | enable linkUp | tick linkUp => some linkUp
  | _ => none

/-- All events are admitted but requests for a session. -/
def AdmitsRest (P : Event → Prop) : Prop := ∀ e, ¬ e.IsOpening → P e

theorem admitsRest_closed : AdmitsRest (¬ ·.IsOpening) := fun _ => id

theorem AdmitsRest.admits (h : AdmitsRest P) : Admits P :=
  ⟨h _ id, fun _ _ => h _ id, fun _ _ => h _ id⟩

theorem logs_advance (rest : AdmitsRest P) (permits : Permits P b) : Logs P b b.advance := by
  have admits := rest.admits
  have sends : ∀ (m : Message) answer, P (.send m answer) := fun _ _ => rest _ id
  have drains : ∀ c : Broker β σ, Logs P c c.drain := fun c => logs_drain admits.report c fun e _ => sends (message e)
  have reset : ∀ c : Broker β σ, Logs P c c.resetBackoff := fun _ => .of_same rfl
  obtain ⟨overdue, lost⟩ := logs_giveUp admits permits
  unfold advance
  split
  · split
    · have connected := (logs_become (rest (.brokerNotice .connected) id) b).trans (reset _)
      exact connected.trans ((logs_send (sends _) _).trans (drains _))
    · split
      · exact overdue
      · exact .refl b
  · split
    · exact drains b
    · exact lost
  · exact logs_reconnectIfDue admits permits
  · exact logs_reconnectIfDue admits permits
  · exact .refl b

theorem logs_tick (rest : AdmitsRest P) {linkUp : Bool} (permits : linkUp = true → Permits P b) :
    Logs P b (b.tick linkUp) := by
  have begun : Logs P b b.beginTick := .of_same rfl
  have looked : Logs P b.beginTick b.beginTick.look := .of_same rfl
  have ended : ∀ c : Broker β σ, Logs P c c.endTick := by
    intro c
    have shown : Logs P c { c with indicator := c.indicator.endTick.1 } := .of_same rfl
    exact shown.trans (logs_notify (fun s _ => rest _ id) _)
  unfold tick
  split
  · refine begun.trans (Logs.trans ?_ (ended _))
    split
    · next up => exact looked.trans (logs_advance rest ((permits up).of_same ⟨rfl, rfl, rfl, rfl⟩))
    · exact logs_park rest.admits _
  · exact .refl b

theorem logs_deliver (rest : AdmitsRest P) (id : UInt32) (topic : String) (payload : List UInt8)
    (b : Broker β σ) : Logs P b (b.deliver id topic payload).2 := by
  have queued : ∀ (e : Outbox.Entry) (c : Broker β σ), Logs P c (c.enqueue e).2 := by
    intro e c
    unfold enqueue
    split <;> exact .of_same rfl
  have sent : Logs P b (b.send { topic, payload, retain := true }).2 :=
    logs_send (fun _ => rest _ fun h => h) b
  unfold deliver
  split
  · exact .refl b
  · split
    · dsimp only
      split
      · exact sent
      · exact sent.trans (queued _ _)
    · exact queued _ b

theorem logs_publish (rest : AdmitsRest P) (id : UInt32) (topic : String) (payload : List UInt8)
    (b : Broker β σ) : Logs P b (b.publish id topic payload).2 :=
  (logs_deliver rest id topic payload b).trans (logs_report rest.admits.report _ _ _)

theorem logs_perform [Storage σ] (rest : AdmitsRest P) (op : Op) (permits : op.linkUp? = some true → Permits P b) :
    Logs P b (op.perform b).2 := by
  cases op with
  | init linkUp => exact logs_init rest.admits fun up => permits (congrArg some up)
  | enable linkUp => exact logs_enable rest.admits fun up => permits (congrArg some up)
  | disable => exact logs_disable rest.admits b
  | tick linkUp => exact logs_tick rest fun up => permits (congrArg some up)
  | publish id topic payload => exact logs_publish rest id topic payload b
  | publishRecord record =>
    unfold Op.perform publishRecord
    dsimp only
    split
    · exact logs_publish rest _ _ _ b
    · exact logs_report rest.admits.report _ _ b
  | setEndpoint host port username password => exact logs_setEndpoint host port username password b
  | clearEndpoint => exact logs_clearEndpoint rest.admits b
  | testConnection =>
    unfold Op.perform testConnection
    dsimp only
    split
    · exact logs_send (fun _ => rest _ id) b
    · exact .refl b

/-- What all events have that were added in a turn, its events have. -/
theorem Turn.events_of_logs [Storage σ] (t : Turn β σ) (h : Logs P t.before t.after) :
    t.after.trace = t.before.trace ++ t.events ∧ ∀ e ∈ t.events, P e := by
  obtain ⟨es, trace, all⟩ := h
  have events : t.events = es := by simp [Turn.events, trace]
  rw [events]
  exact ⟨trace, all⟩

end Client

end Broker
end Telemetry
