import Telemetry.Proofs.Broker.Run

/-!
# Effects of the broker manager

What the parts of an operation send and report, and what they leave alone. `Effect b s r b'` says that
the way from `b` to `b'` made the sends `s` and the reports `r` and kept what every operation keeps.
Effects are chained by `Effect.trans`, so each operation is described by describing its parts. A part is
quiet if it sends and reports nothing and leaves the outbox alone.
-/

namespace Telemetry

open Transport

namespace Event

/-- The messages handed to the client, each with its answer. -/
def sends (es : List Event) : List (Message × Bool) :=
  es.filterMap fun
    | .send m accepted => some (m, accepted)
    | _ => none

/-- What the senders were told. -/
def reports (es : List Event) : List (UInt32 × Delivery) :=
  es.filterMap fun
    | .report id d => some (id, d)
    | _ => none

@[simp] theorem sends_append (x y : List Event) : sends (x ++ y) = sends x ++ sends y :=
  List.filterMap_append

@[simp] theorem reports_append (x y : List Event) : reports (x ++ y) = reports x ++ reports y :=
  List.filterMap_append

end Event

namespace Broker

variable {β σ : Type}

structure Effect (b : Broker β σ) (sends : List (Message × Bool))
    (reports : List (UInt32 × Delivery)) (b' : Broker β σ) : Prop where
  told : ∃ es, b'.trace = b.trace ++ es ∧ Event.sends es = sends ∧ Event.reports es = reports
  settings : b'.settings = b.settings
  topics : b'.topics = b.topics
  reporting : b'.reporting = b.reporting

/-- The way from `b` to `b'` neither sends nor reports anything, and the outbox stays as it is. -/
structure Quiet (b b' : Broker β σ) : Prop extends Effect b [] [] b' where
  outbox : b'.outbox = b.outbox

variable {b b' b'' : Broker β σ} {s s' : List (Message × Bool)} {r r' : List (UInt32 × Delivery)}

theorem Effect.refl (b : Broker β σ) : Effect b [] [] b :=
  ⟨⟨[], by simp, rfl, rfl⟩, rfl, rfl, rfl⟩

theorem Effect.trans (h : Effect b s r b') (h' : Effect b' s' r' b'') :
    Effect b (s ++ s') (r ++ r') b'' := by
  obtain ⟨es, he, hs, hr⟩ := h.told
  obtain ⟨es', he', hs', hr'⟩ := h'.told
  refine ⟨⟨es ++ es', ?_, ?_, ?_⟩, ?_, ?_, ?_⟩
  · rw [he', he, List.append_assoc]
  · rw [Event.sends_append, hs, hs']
  · rw [Event.reports_append, hr, hr']
  · exact h'.settings.trans h.settings
  · exact h'.topics.trans h.topics
  · exact h'.reporting.trans h.reporting

/-- What only changes the other parts of the manager is quiet. -/
theorem Quiet.of_same (ht : b'.trace = b.trace) (hs : b'.settings = b.settings)
    (hp : b'.topics = b.topics) (hr : b'.reporting = b.reporting) (ho : b'.outbox = b.outbox) :
    Quiet b b' :=
  ⟨⟨⟨[], by simp [ht], rfl, rfl⟩, hs, hp, hr⟩, ho⟩

theorem Quiet.refl (b : Broker β σ) : Quiet b b := .of_same rfl rfl rfl rfl rfl

theorem Quiet.trans (h : Quiet b b') (h' : Quiet b' b'') : Quiet b b'' :=
  ⟨h.toEffect.trans h'.toEffect, h'.outbox.trans h.outbox⟩

/-! ## Quiet parts -/

/-- An event that is neither a send nor a report. -/
theorem quiet_record (e : Event) (b : Broker β σ) (hs : Event.sends [e] = [])
    (hr : Event.reports [e] = []) : Quiet b (b.record e) :=
  ⟨⟨⟨[e], rfl, hs, hr⟩, rfl, rfl, rfl⟩, rfl⟩

theorem quiet_notify (notice : Option Status) (b : Broker β σ) : Quiet b (b.notify notice) := by
  cases notice with
  | none => exact .refl b
  | some status => exact quiet_record _ b rfl rfl

theorem quiet_become (status : Status) (b : Broker β σ) : Quiet b (b.become status) := by
  have h : Quiet b { b with indicator := (b.indicator.set status).1 } := .of_same rfl rfl rfl rfl rfl
  exact h.trans (quiet_notify _ _)

theorem quiet_beginTick (b : Broker β σ) : Quiet b b.beginTick := .of_same rfl rfl rfl rfl rfl

theorem quiet_look (b : Broker β σ) : Quiet b b.look := .of_same rfl rfl rfl rfl rfl

theorem quiet_endTick (b : Broker β σ) : Quiet b b.endTick := by
  have h : Quiet b { b with indicator := b.indicator.endTick.1 } := .of_same rfl rfl rfl rfl rfl
  exact h.trans (quiet_notify _ _)

theorem quiet_resetBackoff (b : Broker β σ) : Quiet b b.resetBackoff :=
  .of_same rfl rfl rfl rfl rfl

theorem quiet_persist [Storage σ] (enabled : Bool) (b : Broker β σ) :
    Quiet b (b.persist enabled) := .of_same rfl rfl rfl rfl rfl

theorem quiet_setEndpoint [Storage σ] (host : String) (port : UInt16) (username password : Option String)
    (b : Broker β σ) : Quiet b (b.setEndpoint host port username password).2 := by
  obtain ⟨e, store, refused⟩ | ⟨e, store, -, adopted⟩ := setEndpoint_cases host port username password b
  · rw [refused]
    exact .of_same rfl rfl rfl rfl rfl
  · rw [adopted]
    exact .of_same rfl rfl rfl rfl rfl

section Client

variable [Client β]

theorem quiet_closeSession (b : Broker β σ) : Quiet b b.closeSession := by
  have h : Quiet b { b with client := Client.disconnect b.client } := .of_same rfl rfl rfl rfl rfl
  exact h.trans (quiet_record _ _ rfl rfl)

theorem quiet_openSession (e : Endpoint) (b : Broker β σ) : Quiet b (b.openSession e) := by
  have requested : Quiet b (b.request e) := ⟨⟨⟨[_], rfl, rfl, rfl⟩, rfl, rfl, rfl⟩, rfl⟩
  exact requested.trans (quiet_become _ _)

theorem quiet_connect (b : Broker β σ) : Quiet b b.connect := by
  unfold connect
  split
  · exact quiet_openSession _ _
  · exact quiet_become _ _

theorem quiet_reconnectIfDue (b : Broker β σ) : Quiet b b.reconnectIfDue := by
  unfold reconnectIfDue
  split
  · next backoff _ =>
    have h : Quiet b { b with backoff } := .of_same rfl rfl rfl rfl rfl
    exact h.trans (quiet_connect _)
  · exact .refl b

theorem quiet_park (b : Broker β σ) : Quiet b b.park := by
  have h : Quiet b (if b.status.isActive then b.closeSession else b) := by
    split
    · exact quiet_closeSession b
    · exact .refl b
  exact h.trans ((quiet_become _ _).trans (quiet_resetBackoff _))

theorem quiet_enable [Storage σ] (linkUp : Bool) (b : Broker β σ) : Quiet b (b.enable linkUp) := by
  unfold enable
  split
  · exact .refl b
  · split
    · exact quiet_become _ b
    · have on : Quiet b (({ b with enabled := true }.persist true).resetBackoff) :=
        .of_same rfl rfl rfl rfl rfl
      dsimp only
      split
      · exact on.trans (quiet_connect _)
      · exact on.trans (quiet_become _ _)

theorem quiet_init [Storage σ] (linkUp : Bool) (b : Broker β σ) : Quiet b (b.init linkUp) := by
  unfold init
  split
  · exact quiet_enable linkUp b
  · exact .refl b

/-! ## Sends -/

theorem effect_send (m : Message) (b : Broker β σ) :
    Effect b [(m, (b.send m).1)] [] (b.send m).2 ∧ (b.send m).2.outbox = b.outbox :=
  ⟨⟨⟨[.send m (b.send m).1], rfl, rfl, rfl⟩, rfl, rfl, rfl⟩, rfl⟩

theorem effect_sendEach (es : List Outbox.Entry) (b : Broker β σ) :
    Effect b ((es.map message).zip (b.sendEach es).1) [] (b.sendEach es).2 ∧
      (b.sendEach es).2.outbox = b.outbox ∧ (b.sendEach es).1.length = es.length := by
  induction es generalizing b with
  | nil => exact ⟨.refl b, rfl, rfl⟩
  | cons e rest ih =>
    obtain ⟨first, kept⟩ := effect_send (message e) b
    obtain ⟨others, kept', len⟩ := ih (b.send (message e)).2
    exact ⟨first.trans others, kept'.trans kept, congrArg (· + 1) len⟩

end Client

/-! ## Reports -/

theorem effect_report (id : UInt32) (d : Delivery) (b : Broker β σ) (h : b.reporting = true) :
    Effect b [] [(id, d)] (b.report id d) ∧ (b.report id d).outbox = b.outbox := by
  rw [report, if_pos h]
  exact ⟨⟨⟨[.report id d], rfl, rfl, rfl⟩, rfl, rfl, rfl⟩, rfl⟩

/-- What the sender is told of an outcome. -/
def outcomeReport? : Outbox.Outcome → Option (UInt32 × Delivery)
  | .delivered id => some (id, .success)
  | .dropped id => some (id, .dropped)
  | .requeued _ _ => none

theorem effect_reportOutcomes (os : List Outbox.Outcome) (b : Broker β σ)
    (h : b.reporting = true) :
    Effect b [] (os.filterMap outcomeReport?) (os.foldl reportOutcome b) ∧
      (os.foldl reportOutcome b).outbox = b.outbox := by
  induction os generalizing b with
  | nil => exact ⟨.refl b, rfl⟩
  | cons o rest ih =>
    -- Whether the outcome is reported or not, the rest goes on from a manager that still reports.
    have chain : ∀ {r} {c : Broker β σ}, Effect b [] r c ∧ c.outbox = b.outbox →
        Effect b [] (r ++ rest.filterMap outcomeReport?) (rest.foldl reportOutcome c) ∧
          (rest.foldl reportOutcome c).outbox = b.outbox := by
      intro r c first
      obtain ⟨others, kept⟩ := ih c (first.1.reporting.trans h)
      exact ⟨first.1.trans others, kept.trans first.2⟩
    cases o with
    | delivered id => exact chain (effect_report id .success b h)
    | dropped id => exact chain (effect_report id .dropped b h)
    | requeued id retries => exact chain ⟨.refl b, rfl⟩

theorem effect_reportDropped (es : List Outbox.Entry) (b : Broker β σ) (h : b.reporting = true) :
    Effect b [] (es.map fun e => (e.id, .dropped))
        (es.foldl (fun b e => b.report e.id .dropped) b) ∧
      (es.foldl (fun b e => b.report e.id .dropped) b).outbox = b.outbox := by
  induction es generalizing b with
  | nil => exact ⟨.refl b, rfl⟩
  | cons e rest ih =>
    obtain ⟨first, kept⟩ := effect_report e.id .dropped b h
    obtain ⟨others, kept'⟩ := ih _ (first.reporting.trans h)
    exact ⟨first.trans others, kept'.trans kept⟩

theorem effect_discard (b : Broker β σ) (h : b.reporting = true) :
    Effect b [] (b.outbox.entries.map fun e => (e.id, .dropped)) b.discard ∧
      b.discard.outbox = .empty := by
  have emptied : Effect b [] [] { b with outbox := .empty } :=
    ⟨⟨[], by simp, rfl, rfl⟩, rfl, rfl, rfl⟩
  obtain ⟨reported, kept⟩ := effect_reportDropped b.outbox.entries { b with outbox := .empty } h
  exact ⟨emptied.trans reported, kept⟩

end Broker
end Telemetry
