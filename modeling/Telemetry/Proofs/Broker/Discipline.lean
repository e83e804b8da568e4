import Telemetry.Bench.Equipment
import Telemetry.Proofs.Broker.Accounting
import Telemetry.Proofs.Broker.Watched

/-!
# The discipline of a session

Messages are handed to the client only while the session stands. When it comes to stand, the presence is announced
before all else, and what waits follows. Every session is requested with the endpoint that is set up, and with a last
will that takes the presence back.

There are four courses that an operation can take: it says nothing, it speaks while the session stands all along, it
tests the session, or it is a tick that finds the session standing that was being set up. `course_watch` says that each
operation takes one of them, and what it may send on it.
-/

namespace Telemetry

open Transport

namespace Event

/-- Neither a message nor the notice that a session stands. -/
def IsStill : Event → Prop
  | .send _ _ | .brokerNotice .connected => False
  | _ => True

/-- A message, or a report of what became of one. -/
def IsSpeech : Event → Prop
  | .send _ _ | .report _ _ => True
  | _ => False

theorem sends_of_still {es : List Event} (h : ∀ e ∈ es, e.IsStill) : sends es = [] := by
  apply List.filterMap_eq_nil_iff.2
  intro e mem
  have still := h e mem
  cases e with
  | send m answer => exact still.elim
  | _ => rfl

theorem IsSpeech.isBrokerNotice {e : Event} (h : e.IsSpeech) : e.isBrokerNotice = false := by
  cases e with
  | brokerNotice s => exact h.elim
  | _ => rfl

theorem statusAfter_of_speech (s : Status) {es : List Event} (h : ∀ e ∈ es, e.IsSpeech) : statusAfter s es = s :=
  statusAfter_of_acts s fun e mem => (h e mem).isBrokerNotice

end Event

namespace Broker

variable {β σ : Type}

/-- The course of an operation that sends `sent`, not counting what announces the presence. -/
inductive Course (op : Op) (b : Broker β σ) (sent : List (Message × Bool)) (log : List Event) : Prop
  | still (nothing : sent = []) (still : ∀ e ∈ log, e.IsStill)
  | speaks (stands : b.status = .connected) (plain : op.announcements b.status = 0)
      (speech : ∀ e ∈ log, e.IsSpeech) (sends : Event.sends log = sent)
  | tests (stands : b.status = .connected) (test : op = .testConnection) (nothing : sent = []) (answer : Bool)
      (told : log = [.send (b.presence false) answer])
  | enters (awaited : b.status = .connecting) (linkUp : Bool) (tick : op = .tick linkUp) (answer : Bool)
      (rest : List Event) (speech : ∀ e ∈ rest, e.IsSpeech) (sends : Event.sends rest = sent)
      (told : log = .brokerNotice .connected :: .send (b.presence true) answer :: rest)

/-- Entries from the front of the outbox, no more than a drain tries, are sent once each. -/
def Tried (b : Broker β σ) (sent : List (Message × Bool)) : Prop :=
  ∃ tried, tried <+: b.outbox.entries ∧ tried.length ≤ Outbox.drainBudget ∧ sent.map (·.1) = tried.map message

/-- What an operation may send, not counting what announces the presence. -/
def Op.MaySend (b : Broker β σ) (sent : List (Message × Bool)) : Op → Prop
  | tick _ => b.Tried sent
  | publish _ _ _ | publishRecord _ => ∀ d ∈ sent, d.1.payload.length ≤ b.settings.maxPayloadBytes
  | _ => sent = []

variable {op : Op} {b : Broker β σ} {sent : List (Message × Bool)} {log past rest : List Event} {m : Message}
  {answer : Bool}

/-! ## What follows from the course -/

/-- A message is sent only while the session stands. -/
theorem Course.connected (h : Course op b sent log) (split : log = past ++ .send m answer :: rest) :
    Event.statusAfter b.status past = .connected := by
  have mem : .send m answer ∈ log := by simp [split]
  cases h with
  | still _ still => exact (still _ mem).elim
  | speaks stands _ speech _ =>
    rw [stands]
    exact Event.statusAfter_of_speech _ fun e before => speech e (by simp [split, before])
  | tests stands _ _ first told =>
    obtain ⟨rfl, -⟩ : past = [] ∧ _ := by simpa [told, List.singleton_eq_append_iff] using split
    exact stands
  | enters _ _ _ first others speech _ told =>
    cases past with
    | nil => simp [told] at split
    | cons notice past =>
      rw [told, List.cons_append, List.cons.injEq] at split
      obtain ⟨rfl, split⟩ := split
      -- From the notice on, there is only speech.
      refine Event.statusAfter_of_speech .connected fun e before => ?_
      have later : e ∈ .send (b.presence true) first :: others := by simp [split, before]
      obtain rfl | later := List.mem_cons.1 later
      · trivial
      · exact speech e later

/-- A session comes to stand in a tick, which announces the presence before all else. -/
theorem Course.entered (h : Course op b sent log) (split : log = past ++ .brokerNotice .connected :: rest) :
    (∃ linkUp, op = .tick linkUp) ∧ past = [] ∧
      ∃ answer later, rest = .send (b.presence true) answer :: later ∧ Event.sends later = sent := by
  have mem : .brokerNotice .connected ∈ log := by simp [split]
  cases h with
  | still _ still => exact (still _ mem).elim
  | speaks _ _ speech _ => exact (speech _ mem).elim
  | tests _ _ _ _ told => simp [told] at mem
  | enters _ linkUp tick first others speech sends told =>
    cases past with
    | nil =>
      rw [told, List.nil_append, List.cons.injEq] at split
      exact ⟨⟨linkUp, tick⟩, rfl, first, others, split.2.symm, sends⟩
    | cons notice past =>
      rw [told, List.cons_append, List.cons.injEq] at split
      have later : .brokerNotice .connected ∈ .send (b.presence true) first :: others := by simp [split.2]
      obtain same | later := List.mem_cons.1 later
      · cases same
      · exact (speech _ later).elim

/-- The first message of an operation that announces the presence is that announcement, all others are not. -/
theorem Course.split_sends (h : Course op b sent log) :
    (∀ d ∈ (Event.sends log).take (op.announcements b.status), ∃ retain, d.1 = b.presence retain) ∧
      (Event.sends log).drop (op.announcements b.status) = sent := by
  cases h with
  | still nothing still => simp [Event.sends_of_still still, nothing]
  | speaks _ plain _ sends => simp [plain, sends]
  | tests _ test nothing answer told =>
    have all : Event.sends log = [(b.presence false, answer)] := by rw [told]; rfl
    simp [all, test, nothing, Op.announcements]
  | enters awaited linkUp tick answer rest _ sends told =>
    have all : Event.sends log = (b.presence true, answer) :: sent := by rw [told, ← sends]; rfl
    simp [all, tick, awaited, Op.announcements]

/-- What waits is within the limit, and so is what is sent at once. -/
theorem fits_of_maySend (may : op.MaySend b sent) (fits : b.outbox.Fits b.settings.maxPayloadBytes) :
    ∀ d ∈ sent, d.1.payload.length ≤ b.settings.maxPayloadBytes := by
  intro d mem
  cases op with
  | tick linkUp =>
    obtain ⟨tried, front, -, sent⟩ := may
    have mem : d.1 ∈ tried.map message := sent ▸ List.mem_map_of_mem mem
    obtain ⟨e, waits, same⟩ := List.mem_map.1 mem
    rw [← same]
    exact fits e (front.subset waits)
  | publish _ _ _ | publishRecord _ => exact may d mem
  | _ =>
    rw [show sent = [] from may] at mem
    cases mem

/-! ## Parts that speak -/

/-- On the way from `b` to `b'` there is only speech, and `sent` is sent. -/
def Speaks (sent : List (Message × Bool)) (b b' : Broker β σ) : Prop :=
  ∃ es, b'.trace = b.trace ++ es ∧ (∀ e ∈ es, e.IsSpeech) ∧ Event.sends es = sent

theorem Speaks.trans {b' b'' : Broker β σ} {sent' : List (Message × Bool)} (h : Speaks sent b b')
    (h' : Speaks sent' b' b'') : Speaks (sent ++ sent') b b'' := by
  obtain ⟨es, trace, speech, sends⟩ := h
  obtain ⟨es', trace', speech', sends'⟩ := h'
  refine ⟨es ++ es', by simp [trace, trace'], ?_, by simp [sends, sends']⟩
  intro e mem
  obtain mem | mem := List.mem_append.1 mem
  · exact speech e mem
  · exact speech' e mem

/-- Reports are speech that sends nothing. -/
theorem Speaks.of_reports {b' : Broker β σ} (h : Logs (fun e => ∃ id delivery, e = .report id delivery) b b') :
    Speaks [] b b' := by
  obtain ⟨es, trace, reports⟩ := h
  refine ⟨es, trace, ?_, Event.sends_of_still ?_⟩
  · intro e mem
    obtain ⟨id, delivery, rfl⟩ := reports e mem
    trivial
  · intro e mem
    obtain ⟨id, delivery, rfl⟩ := reports e mem
    trivial

theorem speaks_report (id : UInt32) (delivery : Delivery) (b : Broker β σ) :
    Speaks [] b (b.report id delivery) :=
  .of_reports (logs_report (fun id delivery => ⟨id, delivery, rfl⟩) id delivery b)

theorem course_of_logs {b' : Broker β σ} (h : Logs Event.IsStill b.closely b') : Course op b [] b'.trace := by
  obtain ⟨es, trace, still⟩ := h
  rw [trace]
  exact .still rfl still

theorem course_of_speaks {b' : Broker β σ} (stands : b.status = .connected) (plain : op.announcements b.status = 0)
    (h : Speaks sent b.closely b') : Course op b sent b'.trace := by
  obtain ⟨es, trace, speech, sends⟩ := h
  rw [trace]
  exact .speaks stands plain speech sends

/-- The course does not depend on what the clock shows. -/
theorem Course.of_look (h : Course op b.look sent log) : Course op b sent log := by
  cases h with
  | still nothing still => exact .still nothing still
  | speaks stands plain speech sends => exact .speaks stands plain speech sends
  | tests stands test nothing answer told => exact .tests stands test nothing answer told
  | enters awaited linkUp tick answer rest speech sends told =>
    exact .enters awaited linkUp tick answer rest speech sends told

theorem admits_still : Admits Event.IsStill where
  closing := trivial
  notice s other := by cases s <;> trivial
  report _ _ := trivial

theorem permits_still (b : Broker β σ) : Permits Event.IsStill b := fun _ _ _ => trivial

theorem tried_nothing (b : Broker β σ) : b.Tried [] := ⟨[], List.nil_prefix, Nat.zero_le _, rfl⟩

section Client

variable [Client β]

theorem speaks_send (m : Message) (b : Broker β σ) : Speaks [(m, (b.send m).1)] b (b.send m).2 :=
  ⟨[.send m (b.send m).1], rfl, by simp [Event.IsSpeech], rfl⟩

theorem speaks_sendEach (es : List Outbox.Entry) (b : Broker β σ) :
    Speaks ((es.map message).zip (b.sendEach es).1) b (b.sendEach es).2 := by
  induction es generalizing b with
  | nil => exact ⟨[], by simp [sendEach], by simp, rfl⟩
  | cons e es ih => exact (speaks_send (message e) b).trans (ih _)

/-- A drain sends the entries that are due. -/
theorem speaks_drain (b : Broker β σ) : ∃ sent, Speaks sent b b.drain ∧ b.Tried sent := by
  obtain ⟨-, -, len⟩ := effect_sendEach b.outbox.due b
  have sent := speaks_sendEach b.outbox.due b
  let settled : Broker β σ :=
    { (b.sendEach b.outbox.due).2 with outbox := (b.outbox.drain (b.sendEach b.outbox.due).1).2 }
  have told : Speaks [] settled b.drain :=
    .of_reports (logs_reportOutcomes (fun id delivery => ⟨id, delivery, rfl⟩) _ settled)
  refine ⟨_, sent.trans told, b.outbox.due, List.take_prefix _ _, List.length_take_le _ _, ?_⟩
  rw [List.append_nil]
  exact List.map_fst_zip (by simp [len])

/-- A message is sent at once only while the session stands, and if it is within the limit. -/
theorem deliver_cases (id : UInt32) (topic : String) (payload : List UInt8) (b : Broker β σ) :
    (b.deliver id topic payload).2.trace = b.trace ∨
      b.status = .connected ∧ payload.length ≤ b.settings.maxPayloadBytes ∧
        ∃ answer, Speaks [({ topic, payload, retain := true }, answer)] b (b.deliver id topic payload).2 := by
  have queued : ∀ (e : Outbox.Entry) (c : Broker β σ), (c.enqueue e).2.trace = c.trace := by
    intro e c
    unfold enqueue
    split <;> rfl
  unfold deliver
  split
  · exact .inl rfl
  · next admitted =>
    simp only [Bool.or_eq_true, decide_eq_true_eq, not_or, Nat.not_lt] at admitted
    split
    · next stands =>
      have sent := speaks_send { topic, payload, retain := true } b
      refine .inr ⟨Status.isConnected_iff.1 stands, admitted.2, (b.send { topic, payload, retain := true }).1, ?_⟩
      dsimp only
      split
      · exact sent
      · obtain ⟨es, trace, speech, sends⟩ := sent
        exact ⟨es, (queued _ _).trans trace, speech, sends⟩
    · exact .inl (queued _ b)

/-! ## The course of each operation -/

theorem course_advance (linkUp : Bool) (b : Broker β σ) :
    ∃ sent, Course (.tick linkUp) b sent b.closely.advance.trace ∧ b.Tried sent := by
  obtain ⟨overdue, lost⟩ := logs_giveUp admits_still (permits_still b.closely)
  have still {b' : Broker β σ} (h : Logs Event.IsStill b.closely b') :
      ∃ sent, Course (.tick linkUp) b sent b'.trace ∧ b.Tried sent :=
    ⟨[], course_of_logs h, tried_nothing b⟩
  have status : b.closely.status = b.status := rfl
  cases shown : b.status with
  | connecting =>
    rw [shown] at status
    simp only [advance, status]
    split
    · have differs : b.closely.status ≠ .connected := by simp [status]
      rw [become_of_watched rfl rfl differs]
      let entered : Broker β σ :=
        ({ b.closely with indicator := { b.closely.indicator with status := .connected } }).record
          (.brokerNotice .connected)
      let c := entered.resetBackoff
      obtain ⟨sent, ⟨es, trace, speech, sends⟩, tried⟩ := speaks_drain (c.send (c.presence true)).2
      exact ⟨sent, .enters shown linkUp rfl (c.send (c.presence true)).1 es speech sends trace, tried⟩
    · split
      · exact still overdue
      · exact still (.refl _)
  | connected =>
    rw [shown] at status
    simp only [advance, status]
    split
    · obtain ⟨sent, speaks, tried⟩ := speaks_drain b.closely
      exact ⟨sent, course_of_speaks shown (by simp [Op.announcements, shown]) speaks, tried⟩
    · exact still lost
  | disconnected | error =>
    rw [shown] at status
    simp only [advance, status]
    exact still (logs_reconnectIfDue admits_still (permits_still b.closely))
  | disabled =>
    rw [shown] at status
    simp only [advance, status]
    exact still (.refl _)

theorem course_publish (plain : op.announcements b.status = 0) (id : UInt32) (topic : String) (payload : List UInt8) :
    ∃ sent, Course op b sent (b.closely.publish id topic payload).2.trace ∧
      ∀ d ∈ sent, d.1.payload.length ≤ b.settings.maxPayloadBytes := by
  let delivered := b.closely.deliver id topic payload
  obtain silent | ⟨stands, small, answer, sent⟩ := deliver_cases id topic payload b.closely
  · have reported : Logs Event.IsStill b.closely (delivered.2.report id delivered.1) :=
      (Logs.of_same silent).trans (logs_report admits_still.report id delivered.1 delivered.2)
    exact ⟨[], course_of_logs reported, by simp⟩
  · have spoken := sent.trans (speaks_report id delivered.1 delivered.2)
    replace small : payload.length ≤ b.settings.maxPayloadBytes := small
    exact ⟨_, course_of_speaks stands plain spoken, by simpa using small⟩

variable [Storage σ]

theorem course_watch (op : Op) (b : Broker β σ) :
    ∃ sent, Course op b sent (op.watch b.closely).trace ∧ op.MaySend b sent := by
  have still {op : Op} {b' : Broker β σ} (h : Logs Event.IsStill b.closely b') : Course op b [] b'.trace :=
    course_of_logs h
  have permits := permits_still b.closely
  cases op with
  | init linkUp => exact ⟨[], still (logs_init admits_still fun _ => permits), rfl⟩
  | enable linkUp => exact ⟨[], still (logs_enable admits_still fun _ => permits), rfl⟩
  | disable => exact ⟨[], still (logs_disable admits_still b.closely), rfl⟩
  | tick linkUp =>
    change ∃ sent, Course (.tick linkUp) b sent (if b.closely.enabled then _ else b.closely).trace ∧ b.Tried sent
    split
    · cases linkUp with
      | true =>
        obtain ⟨sent, course, tried⟩ := course_advance true b.look
        exact ⟨sent, course.of_look, tried⟩
      | false => exact ⟨[], still (logs_park admits_still b.closely), tried_nothing b⟩
    · exact ⟨[], still (.refl _), tried_nothing b⟩
  | publish id topic payload => exact course_publish rfl id topic payload
  | publishRecord record =>
    change ∃ sent, Course (.publishRecord record) b sent (b.closely.publishRecord record).2.trace ∧ _
    unfold publishRecord
    split
    · exact course_publish rfl _ _ _
    · exact ⟨[], still (logs_report admits_still.report _ _ b.closely), by simp [Op.MaySend]⟩
  | setEndpoint host port username password =>
    exact ⟨[], still (logs_setEndpoint host port username password b.closely), rfl⟩
  | clearEndpoint => exact ⟨[], still (logs_clearEndpoint admits_still b.closely), rfl⟩
  | testConnection =>
    change ∃ sent, Course .testConnection b sent b.closely.testConnection.2.trace ∧ _
    unfold testConnection
    split
    · next stands =>
      exact ⟨[], .tests (Status.isConnected_iff.1 stands) rfl rfl _ rfl, rfl⟩
    · exact ⟨[], still (.refl _), rfl⟩

/-! ## Runs -/

/-- The discipline of a session, in one turn of a run. -/
structure Turn.Disciplined (settings : Settings.Broker) (topics : Topics) (t : Turn β σ) : Prop where
  /-- A message is handed to the client only while the session stands. -/
  connected : ∀ past m answer rest, t.log = past ++ .send m answer :: rest →
    Event.statusAfter t.before.status past = .connected
  /-- When the session comes to stand, in a tick, the next thing done is to send the presence, to be kept. It is sent
  once: before it nothing is sent, and after it only what was handed in. -/
  entered : ∀ past rest, t.log = past ++ .brokerNotice .connected :: rest →
    (∃ linkUp, t.op = .tick linkUp) ∧ Event.sends past = [] ∧
      ∃ answer later,
        rest = .send { topic := topics.presence, payload := Text.utf8 presenceOnline, retain := true } answer :: later ∧
          Event.sends later = t.deliveries
  /-- What else is sent was handed in, or announces the presence. -/
  announced : ∀ m ∈ t.announced, ∃ retain,
    m = { topic := topics.presence, payload := Text.utf8 presenceOnline, retain }
  /-- A tick sends at most three entries of the outbox, from its front, once each. -/
  tried : ∀ linkUp, t.op = .tick linkUp → ∃ tried, tried <+: t.before.outbox.entries ∧ tried.length ≤ 3 ∧
    t.deliveries.map (·.1) = tried.map message
  fits : ∀ d ∈ t.deliveries, d.1.payload.length ≤ settings.maxPayloadBytes
  /-- A session is requested with the endpoint that is set up, and with a last will that takes the presence back. -/
  requested : ∀ options answer, .openSession options answer ∈ t.events → ∃ e, t.before.endpoint = some e ∧
    options =
      { clientId := topics.deviceId
        host := e.host
        port := e.port
        username := e.username
        password := e.password
        keepAliveSecs := settings.keepAliveSecs
        lastWill := { topic := topics.presence, payload := presenceOffline, retain := true } }

theorem Turn.events_openSession (t : Turn β σ) {options : ConnectOptions}
    (mem : .openSession options answer ∈ t.events) :
    ∃ e, t.before.endpoint = some e ∧ options = t.before.connectOptions e := by
  let asked (e : Event) : Prop := ∀ options answer, e = .openSession options answer →
    ∃ endpoint, t.before.endpoint = some endpoint ∧ options = t.before.connectOptions endpoint
  have rest : AdmitsRest asked := by
    intro e other options answer same
    subst same
    exact (other trivial).elim
  have permits : Permits asked t.before := by
    intro e found answer options answer' same
    cases same
    exact ⟨e, found, rfl⟩
  obtain ⟨-, all⟩ := t.events_of_logs (logs_perform rest t.op fun _ => permits)
  exact all _ mem options answer rfl

theorem Turn.disciplined {settings : Settings.Broker} {topics : Topics} (t : Turn β σ)
    (standing : t.before.Standing settings topics) (fits : t.before.outbox.Fits t.before.settings.maxPayloadBytes) :
    t.Disciplined settings topics := by
  obtain ⟨sent, course, may⟩ : ∃ sent, Course t.op t.before sent t.log ∧ t.op.MaySend t.before sent :=
    course_watch t.op t.before
  obtain ⟨acts, -⟩ := t.log_faithful
  have sends : Event.sends t.events = Event.sends t.log := by
    rw [← Event.sends_acts t.events, ← acts, Event.sends_acts]
  obtain ⟨first, others⟩ := course.split_sends
  rw [← sends] at first others
  have deliveries : t.deliveries = sent := others
  have presence (retain : Bool) : t.before.presence retain =
      { topic := topics.presence, payload := Text.utf8 presenceOnline, retain } := by
    rw [Broker.presence, standing.topics]
  constructor
  case connected => exact fun past m answer rest split => course.connected split
  case entered =>
    intro past rest split
    obtain ⟨tick, rfl, answer, later, next, sent⟩ := course.entered split
    rw [presence] at next
    exact ⟨tick, rfl, answer, later, next, sent.trans deliveries.symm⟩
  case announced =>
    intro m mem
    obtain ⟨d, sentFirst, rfl⟩ := List.mem_map.1 mem
    obtain ⟨retain, same⟩ := first d sentFirst
    exact ⟨retain, same.trans (presence retain)⟩
  case tried =>
    intro linkUp tick
    rw [tick] at may
    rw [deliveries]
    exact may
  case fits =>
    rw [deliveries, ← standing.settings]
    exact fits_of_maySend may fits
  case requested =>
    intro options answer mem
    obtain ⟨e, found, rfl⟩ := t.events_openSession mem
    refine ⟨e, found, ?_⟩
    rw [connectOptions, standing.settings, standing.topics]

/-- The discipline of a session: in every run, whatever the client answers and the clock shows, every turn keeps to it.
The log of a turn is what the turn did to the world, with the changes of the status in their places. -/
theorem run_disciplined (settings : Settings.Broker) (deviceId : String) (watched : Bool) (client : β)
    (board : Board σ) (past : List (Step β σ)) (step : Step β σ) :
    let t : Turn β σ := { op := step.op, before := (run past (load settings deviceId watched client board)).meet step }
    Event.acts t.log = Event.acts t.events ∧ Event.statusAfter t.before.status t.log = t.after.status ∧
      t.Disciplined settings ⟨settings.topicRoot, deviceId⟩ := by
  intro t
  have standing := (standing_load settings deviceId watched client board).run past
  have sound := (sound_load settings deviceId watched client board).run past
  have met : t.before.Standing settings ⟨settings.topicRoot, deviceId⟩ :=
    ⟨standing.settings, standing.topics, standing.active⟩
  obtain ⟨acts, status⟩ := t.log_faithful
  exact ⟨acts, status, t.disciplined met sound.fits⟩

end Client

/-- A tick finds the session standing while a message waits. -/
example :
    let rested : Broker Bench.Client Store.Flash :=
      load {} "unit" false { connected := true } { now := 0, store := {} }
    let awaiting : Broker Bench.Client Store.Flash :=
      { rested with
        enabled := true
        indicator := { status := .connecting }
        outbox := { entries := [{ id := 7, topic := "records/unit/7", payload := [49] }] } }
    let t : Turn Bench.Client Store.Flash := { op := .tick true, before := awaiting }
    t.log =
      [ .brokerNotice .connected,
        .send { topic := "records/unit/status", payload := Text.utf8 "online", retain := true } true,
        .send { topic := "records/unit/7", payload := [49], retain := true } true ] := by
  decide +kernel

end Broker

end Telemetry
