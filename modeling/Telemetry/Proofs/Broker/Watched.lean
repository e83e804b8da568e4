import Telemetry.Proofs.Broker.Log
import Telemetry.Proofs.Broker.Simulation

/-!
# Watching the broker manager closely

Inside a tick the notices are held back, so the trace does not tell at which moment the status changes. A close
watcher is told at once in a tick as well. An operation is carried out for such a watcher by the same parts, without
the begin and the end of a tick; it then does the same to the world and ends in the same status.
-/

namespace Telemetry

namespace Event

/-- Does the event tell the watcher of the broker manager about a change? -/
def isBrokerNotice : Event → Bool
  | .brokerNotice _ => true
  | _ => false

/-- The events but for those notices. -/
def acts (es : List Event) : List Event := es.filter (!·.isBrokerNotice)

@[simp] theorem acts_append (x y : List Event) : acts (x ++ y) = acts x ++ acts y := List.filter_append x y

theorem sends_acts (es : List Event) : sends (acts es) = sends es := by
  induction es with
  | nil => rfl
  | cons e es ih => cases e <;> simp_all [acts, sends, isBrokerNotice]

/-- The status after the notices among the events, if it was `s` before them. -/
def statusAfter (s : Status) (es : List Event) : Status :=
  es.foldl (fun s e => match e with | .brokerNotice told => told | _ => s) s

theorem statusAfter_append (s : Status) (x y : List Event) :
    statusAfter s (x ++ y) = statusAfter (statusAfter s x) y := List.foldl_append

theorem statusAfter_of_acts (s : Status) {es : List Event} (h : ∀ e ∈ es, e.isBrokerNotice = false) :
    statusAfter s es = s := by
  induction es with
  | nil => rfl
  | cons e es ih =>
    have others := ih fun d mem => h d (List.mem_cons_of_mem e mem)
    cases e with
    | brokerNotice told =>
      have silent : isBrokerNotice (.brokerNotice told) = false := h _ List.mem_cons_self
      cases silent
    | _ => exact others

end Event

namespace Broker

variable {β σ : Type}

/-- The manager as it is, with nothing done yet and with a watcher who is told of every change at once. -/
def closely (b : Broker β σ) : Broker β σ :=
  { b with indicator := { status := b.status, watched := true }, trace := [] }

/-- Carries out an operation without holding back the notices of a tick. -/
def Op.watch [Client β] [Storage σ] (op : Op) (b : Broker β σ) : Broker β σ :=
  match op with
  | tick linkUp => if b.enabled then (if linkUp then b.look.advance else b.park) else b
  | op => (op.perform b).2

/-- What the operation did to the world, with each change of the status at its place. -/
def Turn.log [Client β] [Storage σ] (t : Turn β σ) : List Event := (t.op.watch t.before.closely).trace

/-! ## What the watcher does not change -/

/-- The manager apart from what its watcher is told. -/
def veil (past : List Event) (b : Broker β σ) : Broker β σ :=
  { b with indicator := { status := b.status }, trace := Event.acts (past ++ b.trace) }

/-- What a part of an operation does to a manager does not depend on the watcher. -/
def Blind (f : Broker β σ → Broker β σ) : Prop := ∀ past b, (f b).veil past = f (b.veil past)

theorem veil_notify (notice : Option Status) (past : List Event) (b : Broker β σ) :
    (b.notify notice).veil past = b.veil past := by
  cases notice with
  | none => rfl
  | some s => simp [veil, notify, record, status, Event.acts, Event.isBrokerNotice]

theorem veil_endTick (past : List Event) (b : Broker β σ) : b.endTick.veil past = b.veil past := by
  unfold endTick
  rw [veil_notify]
  simp [veil, status]

theorem blind_become (s : Status) : Blind (become (β := β) (σ := σ) s) := by
  intro past b
  have seen : (b.become s).veil past = { b.veil past with indicator := { status := s } } := by
    unfold become
    rw [veil_notify]
    simp [veil, status]
  rw [seen]
  by_cases same : b.indicator.status = s
  · simp [become, notify, veil, status, Indicator.set, same]
  · simp [become, notify, veil, status, Indicator.set, Indicator.announce, same]

theorem blind_record {e : Event} (silent : e.isBrokerNotice = false) : Blind (record (β := β) (σ := σ) e) := by
  intro past b
  simp [veil, record, status, Event.acts, silent]

theorem blind_report (id : UInt32) (delivery : Delivery) : Blind (report (β := β) (σ := σ) id delivery) := by
  intro past b
  have told := blind_record (e := .report id delivery) rfl past b
  cases hr : b.reporting
  · simp [report, veil, hr]
  · simp [report, hr, show (b.veil past).reporting = true from hr, told]

/-- Only the store and the endpoint may change. -/
theorem setEndpoint_veil [Storage σ] (host : String) (port : UInt16) (username password : Option String)
    (past : List Event) (b : Broker β σ) :
    (b.veil past).setEndpoint host port username password =
        ((b.setEndpoint host port username password).1, (b.setEndpoint host port username password).2.veil past) ∧
      (b.setEndpoint host port username password).2.indicator = b.indicator ∧
      (b.setEndpoint host port username password).2.trace = b.trace := by
  unfold setEndpoint
  split
  · exact ⟨rfl, rfl, rfl⟩
  · dsimp only [veil]
    split <;> exact ⟨rfl, rfl, rfl⟩

theorem forget_veil [Storage σ] (past : List Event) (b : Broker β σ) :
    (b.veil past).forget = (b.forget.1, b.forget.2.veil past) ∧ b.forget.2.indicator = b.indicator ∧
      b.forget.2.trace = b.trace := by
  unfold forget
  dsimp only [veil]
  split <;> exact ⟨rfl, rfl, rfl⟩

/-! ## The watcher follows -/

/-- The second manager, which is watched closely, follows the first one: all else is alike, with `past` done before it
was watched, and its watcher has been told of the status it shows. -/
structure Follows (shown : Status) (past : List Event) (b b' : Broker β σ) : Prop where
  alike : b.veil [] = b'.veil past
  outside : b'.indicator.tickStart = none
  watched : b'.indicator.watched = true
  told : Event.statusAfter shown b'.trace = b'.status

variable {shown : Status} {past : List Event} {b b' : Broker β σ}

/-- What happens in both alike, without a notice. -/
theorem Follows.apply (h : Follows shown past b b') {f : Broker β σ → Broker β σ} (blind : Blind f)
    (indicator : (f b').indicator = b'.indicator) (silent : Grows (·.isBrokerNotice = false) b'.trace (f b').trace) :
    Follows shown past (f b) (f b') := by
  obtain ⟨es, trace, silent⟩ := silent
  refine ⟨?_, ?_, ?_, ?_⟩
  · rw [blind, h.alike, blind]
  · rw [indicator, h.outside]
  · rw [indicator, h.watched]
  · rw [trace, Event.statusAfter_append, h.told, Event.statusAfter_of_acts _ silent, status, status, indicator]

/-- Outside a tick a change is told at once. -/
theorem become_of_watched {s : Status} (outside : b.indicator.tickStart = none) (watched : b.indicator.watched = true)
    (differs : b.status ≠ s) :
    b.become s = ({ b with indicator := { b.indicator with status := s } }).record (.brokerNotice s) := by
  replace differs : ¬ b.indicator.status = s := differs
  simp [Broker.become, Indicator.set, Indicator.announce, notify, differs, outside, watched]

theorem Follows.become (h : Follows shown past b b') (s : Status) :
    Follows shown past (b.become s) (b'.become s) := by
  have alike : (b.become s).veil [] = (b'.become s).veil past := by
    rw [blind_become, h.alike, blind_become]
  by_cases same : b'.status = s
  · have kept : b'.become s = b' := by
      simp [Broker.become, Indicator.set, notify, show b'.indicator.status = s from same]
    rw [kept] at alike ⊢
    exact ⟨alike, h.outside, h.watched, h.told⟩
  · rw [become_of_watched h.outside h.watched same] at alike ⊢
    refine ⟨alike, h.outside, h.watched, ?_⟩
    exact Event.statusAfter_append shown b'.trace [.brokerNotice s]

/-- A part that does nothing to the world at all. -/
theorem Follows.pass (h : Follows shown past b b') {f : Broker β σ → Broker β σ} (blind : Blind f)
    (indicator : (f b').indicator = b'.indicator) (trace : (f b').trace = b'.trace) :
    Follows shown past (f b) (f b') := by
  refine h.apply blind indicator ?_
  rw [trace]
  exact .refl _

/-- What does not depend on the watcher is the same in both. -/
theorem Follows.same (h : Follows shown past b b') {α : Type} (f : Broker β σ → α)
    (unseen : ∀ past b, f (b.veil past) = f b) : f b' = f b := by
  rw [← unseen past b', ← h.alike, unseen]

/-- What does one more thing to the world. -/
theorem Follows.act (h : Follows shown past b b') {f : Broker β σ → Broker β σ} (blind : Blind f)
    (indicator : (f b').indicator = b'.indicator) {e : Event} (silent : e.isBrokerNotice = false)
    (trace : (f b').trace = b'.trace ++ [e]) : Follows shown past (f b) (f b') := by
  refine h.apply blind indicator ?_
  rw [trace]
  exact grows_snoc silent b'.trace

theorem follows_simulation [Client β] [Storage σ] (shown : Status) (past : List Event) :
    Simulation (Follows (β := β) (σ := σ) shown past) where
  looks h := by
    refine ⟨h.same (·.status) fun _ _ => rfl, h.same (·.enabled) fun _ _ => rfl,
      h.same (·.isConfigured) fun _ _ => rfl, h.same (·.settings) fun _ _ => rfl, h.same (·.topics) fun _ _ => rfl,
      h.same (·.outbox) fun _ _ => rfl, h.same (Client.isConnected ·.client) fun _ _ => rfl,
      h.same (Storage.bool? Store.brokerEnabled ·.store) fun _ _ => rfl, fun _ => ?_⟩
    exact h.same (fun b => Clock.elapsed b.now b.startedAt) fun _ _ => rfl
  become h s _ := h.become s
  look h := h.pass (fun _ _ => rfl) rfl rfl
  resetBackoff h := h.pass (fun _ _ => rfl) rfl rfl
  poll h := by
    refine ⟨h.same (fun b => (b.backoff.poll b.now).1) fun _ _ => rfl, ?_⟩
    exact h.pass (f := fun b => { b with backoff := (b.backoff.poll b.now).2 }) (fun _ _ => rfl) rfl rfl
  report h id delivery := by
    refine h.apply (blind_report id delivery) ?_ ?_
    · unfold Broker.report
      split <;> rfl
    · exact logs_report (P := (·.isBrokerNotice = false)) (fun _ _ => rfl) id delivery _
  replace h q := h.pass (f := fun b => { b with outbox := q }) (fun _ _ => rfl) rfl rfl
  turn h on := h.pass (f := fun b => { b with enabled := on }) (fun _ _ => rfl) rfl rfl
  persist h on := h.pass (f := Broker.persist on) (fun _ _ => rfl) rfl rfl
  send h m := by
    refine ⟨h.same (fun b => (b.send m).1) fun _ _ => rfl, ?_⟩
    exact h.act (f := fun b => (b.send m).2) (fun past b => blind_record rfl past _) rfl (e := .send m _) rfl rfl
  closeSession h := h.act (fun past b => blind_record rfl past _) rfl (e := .closeSession) rfl rfl
  openSession := by
    intro b b' h e e' found found'
    have endpoint : b'.endpoint = b.endpoint := h.same (·.endpoint) fun _ _ => rfl
    obtain rfl : e = e' := Option.some.inj (found.symm.trans (endpoint.symm.trans found'))
    have requested : Follows shown past (b.request e) (b'.request e) :=
      h.act (fun past b => blind_record rfl past _) rfl (e := .openSession _ _) rfl rfl
    have shows : b'.requestStatus e = b.requestStatus e := h.same (·.requestStatus e) fun _ _ => rfl
    rw [openSession_eq, openSession_eq, shows]
    exact requested.become _
  setEndpoint h host port username password := by
    have veiled := setEndpoint_veil (β := β) (σ := σ) host port username password
    refine ⟨h.same (fun b => (b.setEndpoint host port username password).1) fun past b => ?_, ?_⟩
    · rw [(veiled past b).1]
    · exact h.pass (f := fun b => (b.setEndpoint host port username password).2)
        (fun past b => congrArg Prod.snd (veiled past b).1.symm) (veiled [] _).2.1 (veiled [] _).2.2
  forget h := by
    have veiled := forget_veil (β := β) (σ := σ)
    refine ⟨h.same (·.forget.1) fun past b => ?_, ?_⟩
    · rw [(veiled past b).1]
    · exact h.pass (f := (·.forget.2)) (fun past b => congrArg Prod.snd (veiled past b).1.symm)
        (veiled [] _).2.1 (veiled [] _).2.2

theorem follows_closely (b : Broker β σ) : Follows b.status b.trace b b.closely :=
  ⟨by simp [veil, closely, status], rfl, rfl, rfl⟩

/-- What the first manager is told about the begin or the end of a tick is nothing that the second one minds. -/
theorem Follows.left (h : Follows shown past b b') {c : Broker β σ} (same : c.veil [] = b.veil []) :
    Follows shown past c b' :=
  ⟨same.trans h.alike, h.outside, h.watched, h.told⟩

variable [Client β] [Storage σ]

theorem Follows.tick (h : Follows shown past b b') (linkUp : Bool) :
    Follows shown past (b.tick linkUp) ((Op.tick linkUp).watch b') := by
  have sim := follows_simulation (β := β) (σ := σ) shown past
  have begun : Follows shown past b.beginTick b' := h.left rfl
  unfold Broker.tick Op.watch
  dsimp only
  rw [(sim.looks h).enabled]
  split
  · cases linkUp with
    | true => exact (sim.advance (sim.look begun)).left (veil_endTick [] _)
    | false => exact (sim.park begun).left (veil_endTick [] _)
  · exact h

theorem Follows.watch (h : Follows shown past b b') (op : Op) :
    Follows shown past (op.perform b).2 (op.watch b') := by
  have sim := follows_simulation (β := β) (σ := σ) shown past
  cases op with
  | tick linkUp => exact h.tick linkUp
  | init linkUp => exact sim.init linkUp h
  | enable linkUp => exact sim.enable linkUp h
  | disable => exact sim.disable h
  | publish id topic payload => exact (sim.publish id topic payload h).state
  | publishRecord record => exact (sim.publishRecord record h).state
  | setEndpoint host port username password => exact (sim.setEndpoint h host port username password).state
  | clearEndpoint => exact (sim.clearEndpoint h).state
  | testConnection => exact (sim.testConnection h).state

/-- A close watcher sees the operation do what it does, and end in the status in which it ends. -/
theorem Turn.log_faithful (t : Turn β σ) :
    Event.acts t.log = Event.acts t.events ∧ Event.statusAfter t.before.status t.log = t.after.status := by
  have follows := (follows_closely t.before).watch t.op
  obtain ⟨trace, -⟩ := t.events_of_logs (P := fun _ => True) (logs_perform (fun _ _ => trivial) t.op fun _ _ _ _ => trivial)
  have acts : Event.acts t.after.trace = Event.acts (t.before.trace ++ t.log) :=
    congrArg (·.trace) follows.alike
  refine ⟨?_, ?_⟩
  · rw [trace, Event.acts_append, Event.acts_append] at acts
    exact (List.append_cancel_left acts).symm
  · exact follows.told.trans (follows.same (·.status) fun _ _ => rfl)

end Broker

end Telemetry
