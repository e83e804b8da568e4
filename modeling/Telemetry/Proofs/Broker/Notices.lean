import Telemetry.Proofs.Broker.Off
import Telemetry.Proofs.Broker.Simulation
import Telemetry.Proofs.Link.Notices

/-!
# The notices of the broker manager

Messages are sent and reported without a change of the status. Sessions change it as links do: once at most outside a
tick, and any number of times in one.
-/

namespace Telemetry

/-- What an event tells the watcher of a broker manager. -/
def Event.brokerNotice? : Event → Option Status
  | .brokerNotice s => some s
  | _ => none

namespace Broker

open Shows Transport

variable {β σ : Type} {b b' : Broker β σ} {start : Status}

instance : Shows (Broker β σ) where
  indicator b := b.indicator
  trace b := b.trace
  notice? := Event.brokerNotice?

/-! ## The parts of an operation -/

theorem told_notify (notice : Option Status) (b : Broker β σ) : Told notice.toList b (b.notify notice) := by
  cases notice with
  | none => exact .of_same rfl
  | some s => exact ⟨[.brokerNotice s], rfl, rfl⟩

theorem indicator_become (s : Status) (b : Broker β σ) : (b.become s).indicator = (b.indicator.set s).1 :=
  indicator_notify _ _

/-- What is told of a status that is taken on. -/
theorem told_become (s : Status) (b : Broker β σ) : Told (b.indicator.set s).2.toList b (b.become s) :=
  told_notify _ { b with indicator := (b.indicator.set s).1 }

theorem mirrored_become (rest : b.indicator.AtRest) (s : Status) : Mirrored b (b.become s) :=
  mirrored_set rest s (indicator_become s b) (told_become s b)

theorem held_become (tick : b.indicator.InTick start) (s : Status) : Held start b (b.become s) :=
  held_set tick s (indicator_become s b) (told_become s b)

theorem mute_report (id : UInt32) (d : Delivery) (b : Broker β σ) : Mute b (b.report id d) := by
  unfold report
  split
  · exact mute_snoc (e := .report id d) rfl rfl rfl
  · exact .refl b

theorem mute_discard (b : Broker β σ) : Mute b b.discard := by
  have silent : b.droppedEvents.filterMap Event.brokerNotice? = [] := by
    unfold droppedEvents
    split
    · rw [List.filterMap_map, List.filterMap_eq_nil_iff]
      exact fun _ _ => rfl
    · rfl
  rw [discard_eq]
  exact ⟨rfl, b.droppedEvents, rfl, silent⟩

theorem mute_setEndpoint [Storage σ] (host : String) (port : UInt16) (username password : Option String)
    (b : Broker β σ) : Mute b (b.setEndpoint host port username password).2 := by
  obtain ⟨e, store, refused⟩ | ⟨e, store, -, adopted⟩ := setEndpoint_cases host port username password b
  · rw [refused]
    exact .of_same rfl rfl
  · rw [adopted]
    exact .of_same rfl rfl

section Client

variable [Client β]

theorem mute_closeSession (b : Broker β σ) : Mute b b.closeSession := mute_snoc (e := .closeSession) rfl rfl rfl

theorem mute_send (m : Message) (b : Broker β σ) : Mute b (b.send m).2 :=
  mute_snoc (e := .send m _) rfl rfl rfl

theorem mute_request (e : Endpoint) (b : Broker β σ) : Mute b (b.request e) :=
  mute_snoc (e := .openSession (b.connectOptions e) _) rfl rfl rfl

theorem mirrored_connect (rest : b.indicator.AtRest) : Mirrored b b.connect := by
  unfold connect
  split
  · next e _ =>
    have requested := mute_request e b
    have asked : (b.request e).indicator.AtRest := rest
    rw [openSession_eq]
    exact (mirrored_become asked (b.requestStatus e)).after requested
  · exact mirrored_become rest .error

/-! ## Messages -/

omit [Client β] in
theorem mute_enqueue (e : Outbox.Entry) (b : Broker β σ) : Mute b (b.enqueue e).2 := by
  unfold enqueue
  split
  · exact .of_same rfl rfl
  · exact .refl b

theorem mute_deliver (id : UInt32) (topic : String) (payload : List UInt8) (b : Broker β σ) :
    Mute b (b.deliver id topic payload).2 := by
  unfold deliver
  split
  · exact .refl b
  · split
    · have sent := mute_send { topic, payload, retain := true } b
      dsimp only
      split
      · exact sent
      · exact sent.trans (mute_enqueue _ _)
    · exact mute_enqueue _ b

theorem mute_publish (id : UInt32) (topic : String) (payload : List UInt8) (b : Broker β σ) :
    Mute b (b.publish id topic payload).2 :=
  (mute_deliver id topic payload b).trans (mute_report _ _ _)

theorem mute_publishRecord (r : Record) (b : Broker β σ) : Mute b (b.publishRecord r).2 := by
  unfold publishRecord
  split
  · exact mute_publish _ _ _ b
  · exact mute_report _ _ b

theorem mute_testConnection (b : Broker β σ) : Mute b b.testConnection.2 := by
  unfold testConnection
  split
  · exact mute_send _ b
  · exact .refl b

/-! ## A tick -/

variable [Storage σ]

/-- Whatever a manager does in a tick, nobody is told while it lasts. This is a simulation of a manager by itself. -/
theorem held_simulation (start : Status) (a : Broker β σ) :
    Simulation fun b b' : Broker β σ => b' = b ∧ Held start a b := by
  have goesOn : ∀ {b b' : Broker β σ}, Held start a b → Mute b b' → Held start a b' :=
    fun h mute => h.trans (mute.held h.tick)
  constructor
  case looks =>
    rintro _ b ⟨rfl, -⟩
    exact ⟨rfl, rfl, rfl, rfl, rfl, rfl, rfl, rfl, fun _ => rfl⟩
  case become =>
    rintro _ b ⟨rfl, h⟩ s -
    exact ⟨rfl, h.trans (held_become h.tick s)⟩
  case poll =>
    rintro _ b ⟨rfl, h⟩
    exact ⟨rfl, rfl, goesOn h (.of_same rfl rfl)⟩
  case report =>
    rintro _ b ⟨rfl, h⟩ id d
    exact ⟨rfl, goesOn h (mute_report id d b)⟩
  case send =>
    rintro _ b ⟨rfl, h⟩ m
    exact ⟨rfl, rfl, goesOn h (mute_send m b)⟩
  case closeSession =>
    rintro _ b ⟨rfl, h⟩
    exact ⟨rfl, goesOn h (mute_closeSession b)⟩
  case openSession =>
    rintro _ b ⟨rfl, h⟩ e e' found found'
    obtain rfl : e = e' := Option.some.inj (found.symm.trans found')
    have requested := goesOn h (mute_request e b)
    exact ⟨rfl, requested.trans (held_become requested.tick (b.requestStatus e))⟩
  case setEndpoint =>
    rintro _ b ⟨rfl, h⟩ host port username password
    exact ⟨rfl, rfl, goesOn h (mute_setEndpoint host port username password b)⟩
  case forget =>
    rintro _ b ⟨rfl, h⟩
    have forgot : Mute b b.forget.2 := by
      unfold forget
      dsimp only
      split <;> exact .of_same rfl rfl
    exact ⟨rfl, rfl, goesOn h forgot⟩
  all_goals
    rintro _ b ⟨rfl, h⟩
    first
    | exact ⟨rfl, goesOn h (.of_same rfl rfl)⟩
    | exact fun _ => ⟨rfl, goesOn h (.of_same rfl rfl)⟩

omit [Client β] [Storage σ] in
theorem mirrored_endTick (h : Held b.status b b') : Mirrored b b'.endTick :=
  h.mirrored (indicator_notify _ _) (told_notify _ { b' with indicator := b'.indicator.endTick.1 })

theorem mirrored_tick (linkUp : Bool) (rest : b.indicator.AtRest) : Mirrored b (b.tick linkUp) := by
  have sim := held_simulation b.status b
  have begun : Held b.status b b.beginTick := ⟨rest.beginTick, .of_same rfl⟩
  have worked : Held b.status b (if linkUp then b.beginTick.look.advance else b.beginTick.park) := by
    split
    · exact (sim.advance (sim.look ⟨rfl, begun⟩)).2
    · exact (sim.park ⟨rfl, begun⟩).2
  unfold tick
  split
  · exact mirrored_endTick worked
  · exact (Mute.refl b).mirrored rest

/-! ## Turning on and off -/

theorem mirrored_enable (linkUp : Bool) (rest : b.indicator.AtRest) : Mirrored b (b.enable linkUp) := by
  unfold enable
  split
  · exact (Mute.refl b).mirrored rest
  · split
    · exact mirrored_become rest .error
    · let on : Broker β σ := ({ b with enabled := true }.persist true).resetBackoff
      have turned : Mute b on := .of_same rfl rfl
      have still : on.indicator.AtRest := rest
      dsimp only
      split
      · exact (mirrored_connect still).after turned
      · exact (mirrored_become still .error).after turned

theorem mirrored_init (linkUp : Bool) (rest : b.indicator.AtRest) : Mirrored b (b.init linkUp) := by
  unfold init
  split
  · exact mirrored_enable linkUp rest
  · exact (Mute.refl b).mirrored rest

theorem mirrored_disable (rest : b.indicator.AtRest) : Mirrored b b.disable := by
  let off : Broker β σ := { b with enabled := false }
  have turned : Mute b off := .of_same rfl rfl
  have emptied := (turned.trans (mute_closeSession off)).trans (mute_discard off.closeSession)
  have shut : Mute b b.shutDown := emptied.trans (.of_same rfl rfl)
  have still : b.shutDown.indicator.AtRest := by
    have same : b.shutDown.indicator = b.indicator := shut.shown
    rwa [same]
  exact (mirrored_become still .disabled).after shut

theorem mirrored_clearEndpoint (rest : b.indicator.AtRest) : Mirrored b b.clearEndpoint.2 := by
  have off : Mirrored b b.ensureOff := by
    unfold ensureOff
    split
    · exact mirrored_disable rest
    · exact (Mute.refl b).mirrored rest
  obtain ⟨e, store, refused⟩ | ⟨store, cleared⟩ := clearEndpoint_cases b
  · rw [refused]
    exact off.before (.of_same rfl rfl)
  · rw [cleared]
    exact off.before (.of_same rfl rfl)

/-! ## Runs -/

theorem mirrored_perform (rest : b.indicator.AtRest) (op : Op) : Mirrored b (op.perform b).2 := by
  cases op with
  | init linkUp => exact mirrored_init linkUp rest
  | enable linkUp => exact mirrored_enable linkUp rest
  | disable => exact mirrored_disable rest
  | tick linkUp => exact mirrored_tick linkUp rest
  | publish id topic payload => exact (mute_publish id topic payload b).mirrored rest
  | publishRecord record => exact (mute_publishRecord record b).mirrored rest
  | setEndpoint host port username password =>
    exact (mute_setEndpoint host port username password b).mirrored rest
  | clearEndpoint => exact mirrored_clearEndpoint rest
  | testConnection => exact (mute_testConnection b).mirrored rest

/-- What the watcher is told in a turn. -/
def Turn.notices (t : Turn β σ) : List Status := t.events.filterMap Event.brokerNotice?

/-- In each turn the watcher is told what has changed, so that it knows the status at the end of the run. -/
theorem mirrors_turns (rest : b.indicator.AtRest) (steps : List (Step β σ)) :
    (∀ t ∈ turns steps b, t.notices = t.before.status.news t.after.status) ∧
      Mirrors b.status ((turns steps b).flatMap Turn.notices) (run steps b).status := by
  induction steps generalizing b with
  | nil => exact ⟨fun _ ht => absurd ht List.not_mem_nil, mirrors_nil b.status⟩
  | cons s steps ih =>
    have met : (b.meet s).indicator.AtRest := rest
    let t : Turn β σ := { op := s.op, before := b.meet s }
    have mirrored : Mirrored t.before t.after := mirrored_perform met s.op
    have first : t.notices = b.status.news t.after.status := mirrored.notices
    obtain ⟨each, all⟩ := ih (b := t.after) mirrored.rest
    have whole : Mirrors b.status (t.notices ++ (turns steps t.after).flatMap Turn.notices)
        (run steps t.after).status := by
      rw [first]
      exact all.after
    exact ⟨List.forall_mem_cons.2 ⟨first, each⟩, whole⟩

end Client

end Broker

/-! ## Both managers -/

/-- A manager that is watched from the start tells its watcher in each turn what has changed, whatever is done and
however the hardware, the clock and the store behave. So no two notices in a row are the same, and the last one is
the status; before the first one that is `disabled`. It does not matter whether the senders of messages are told
what becomes of them. -/
theorem notices_mirror_status {ρ β σ : Type} [Radio ρ] [Client β] [Storage σ] (link : Settings.Link)
    (broker : Settings.Broker) (deviceId : String) (radio : ρ) (client : β) (board : Board σ) (reporting : Bool)
    (linkSteps : List (Link.Step ρ σ)) (brokerSteps : List (Broker.Step β σ)) :
    let l := Link.load link true radio board
    let b := { Broker.load broker deviceId true client board with reporting }
    ((∀ t ∈ Link.turns linkSteps l, t.notices = t.before.status.news t.after.status) ∧
      Mirrors .disabled ((Link.turns linkSteps l).flatMap Link.Turn.notices) (Link.run linkSteps l).status) ∧
    (∀ t ∈ Broker.turns brokerSteps b, t.notices = t.before.status.news t.after.status) ∧
      Mirrors .disabled ((Broker.turns brokerSteps b).flatMap Broker.Turn.notices)
        (Broker.run brokerSteps b).status := by
  intro l b
  have atRest : l.indicator.AtRest := ⟨rfl, rfl⟩
  have atRest' : b.indicator.AtRest := ⟨rfl, rfl⟩
  exact ⟨Link.mirrors_turns atRest linkSteps, Broker.mirrors_turns atRest' brokerSteps⟩

end Telemetry
