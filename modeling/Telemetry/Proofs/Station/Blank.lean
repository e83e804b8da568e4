import Telemetry.Proofs.Broker.Log
import Telemetry.Proofs.Broker.Off
import Telemetry.Proofs.Broker.Worn
import Telemetry.Proofs.Link.Worn
import Telemetry.Proofs.Station.Sound

/-!
# A blank station

Once both managers have been cleared and the store has been erased, nothing is set up, nothing waits and nothing is
kept. A station that is started on an empty store is the same wherever that store comes from.
-/

namespace Telemetry

open Storage

/-! ## Clearing the link -/

namespace Link

variable {ρ σ : Type} [Radio ρ] [Storage σ]

/-- Turning the link off is nothing that the sender of a message is told. -/
theorem unreported_disable (l : Link ρ σ) :
    ∃ es, l.disable.trace = l.trace ++ es ∧ Event.reports es = [] := by
  let off : Link ρ σ := ({ l with enabled := false }.dissociate true).persist false
  have dropped : off.trace = l.trace ++ [.dissociate true] := rfl
  change ∃ es, (off.become .disabled).trace = _ ∧ _
  unfold become
  dsimp only
  cases (off.indicator.set .disabled).2 with
  | none => exact ⟨_, dropped, rfl⟩
  | some s =>
    refine ⟨[.dissociate true, .linkNotice s], ?_, rfl⟩
    change off.trace ++ [.linkNotice s] = _
    rw [dropped, List.append_assoc]
    rfl

theorem unreported_clearCredentials (l : Link ρ σ) :
    ∃ es, l.clearCredentials.2.trace = l.trace ++ es ∧ Event.reports es = [] ∧ (l.enabled = false → es = []) := by
  have off : ∃ es, l.ensureOff.trace = l.trace ++ es ∧ Event.reports es = [] ∧ (l.enabled = false → es = []) := by
    unfold ensureOff
    split
    · next on =>
      obtain ⟨es, trace, silent⟩ := unreported_disable l
      exact ⟨es, trace, silent, fun idle => absurd on (Bool.eq_false_iff.1 idle)⟩
    · exact ⟨[], (List.append_nil _).symm, rfl, fun _ => rfl⟩
  obtain ⟨e, store, refused⟩ | ⟨store, cleared⟩ := clearCredentials_cases l
  · rw [refused]
    exact off
  · rw [cleared]
    exact off

end Link

/-! ## Clearing the broker -/

namespace Broker

variable {β σ : Type} [Client β] [Storage σ] {b : Broker β σ}

/-- Each entry that waits is dropped, and its sender is told so. -/
theorem drops_clearEndpoint (idle : b.enabled = false → b.outbox = .empty) :
    b.clearEndpoint.2.outbox = .empty ∧
      ∃ es, b.clearEndpoint.2.trace = b.trace ++ es ∧ Event.reports es = Event.reports b.droppedEvents ∧
        (b.enabled = false → es = []) := by
  have off : b.ensureOff.outbox = .empty ∧
      ∃ es, b.ensureOff.trace = b.trace ++ es ∧ Event.reports es = Event.reports b.droppedEvents ∧
        (b.enabled = false → es = []) := by
    unfold ensureOff
    split
    · next on =>
      obtain ⟨es, trace, told⟩ := told_disable b
      rw [← reports_droppedEvents] at told
      exact ⟨(disables_disable b).outbox, .closeSession :: es, trace, told,
        fun idle => absurd on (Bool.eq_false_iff.1 idle)⟩
    · next off =>
      have nothing := idle (Bool.eq_false_iff.2 off)
      refine ⟨nothing, [], (List.append_nil _).symm, ?_, fun _ => rfl⟩
      simp [droppedEvents, nothing, Outbox.empty]
  obtain ⟨e, store, refused⟩ | ⟨store, cleared⟩ := clearEndpoint_cases b
  · rw [refused]
    exact off
  · rw [cleared]
    exact off

end Broker

namespace Station

variable {ρ β σ : Type} [Storage σ]

/-- Both managers are off and not set up, nothing waits to be sent, and the store is empty. -/
structure Blank (s : Station ρ β σ) : Prop where
  linkOff : s.link.enabled = false
  brokerOff : s.broker.enabled = false
  credentials : s.link.credentials = none
  endpoint : s.broker.endpoint = none
  outbox : s.broker.outbox = .empty
  store : ∀ k, lookup k s.store = none

variable {good : σ → Prop} {s s' s'' : Station ρ β σ}

/-- On the way from `s` to `s'` the station stayed blank, and neither its hardware was asked for anything nor anybody
told a status. -/
structure Rests (good : σ → Prop) (s s' : Station ρ β σ) : Prop where
  blank : Blank s'
  good : good s'.store
  idle : Grows (fun e => e.isIdle = true) s.trace s'.trace

theorem Rests.trans (h : Rests good s s') (h' : Rests good s' s'') : Rests good s s'' :=
  ⟨h'.blank, h'.good, h.idle.trans h'.idle⟩

/-- Nothing but a trace that has gone on. -/
theorem Blank.rests (h : Blank s) (hg : good s.store) {trace : List Event}
    (idle : Grows (fun e => e.isIdle = true) s.trace trace) : Rests good s { s with trace } :=
  ⟨⟨h.linkOff, h.brokerOff, h.credentials, h.endpoint, h.outbox, h.store⟩, hg, idle⟩

theorem Rests.refl (h : Blank s) (hg : good s.store) : Rests good s s := h.rests hg (.refl _)

/-- The hardware may do what it likes. -/
theorem Blank.surround (h : Blank s) (radio : ρ) (client : β) (journal : Journal) :
    Blank (s.surround radio client journal) :=
  ⟨h.linkOff, h.brokerOff, h.credentials, h.endpoint, h.outbox, h.store⟩

/-! ## Becoming blank -/

variable [Radio ρ] [Client β]

/-- Both managers are cleared, the broker first. -/
def cleared (s : Station ρ β σ) : Station ρ β σ :=
  ((s.askBroker Broker.clearEndpoint).2.askLink Link.clearCredentials).2

/-- Both managers are cleared, then the store is erased. -/
def wiped (s : Station ρ β σ) : Station ρ β σ := { s.cleared with store := (Storage.clear s.cleared.store).2 }

/-- On a store whose writes do not fail nothing is left, and nothing is done to managers that are off already. -/
theorem blank_wiped (reliable : Reliable good) (hg : good s.store)
    (idle : s.broker.enabled = false → s.broker.outbox = .empty) :
    Blank s.wiped ∧ good s.wiped.store ∧
      ∃ es, s.wiped.trace = s.trace ++ es ∧ Event.reports es = Event.reports s.broker.droppedEvents ∧
        (s.link.enabled = false → s.broker.enabled = false → es = []) := by
  let unset := (s.askBroker Broker.clearEndpoint).2
  have broker := Broker.clears_clearEndpoint (b := s.broker) reliable.failsAt hg
  have link := Link.clears_clearCredentials (l := unset.link) reliable.failsAt broker.good
  obtain ⟨-, erased, empty⟩ := reliable.erase s.cleared.store link.good
  obtain ⟨endpoint, -⟩ := broker.gone (broker.ok_iff.2 fun _ _ => nofun)
  obtain ⟨credentials, -⟩ := link.gone (link.ok_iff.2 fun _ _ => nofun)
  obtain ⟨outbox, es, trace, told, quiet⟩ := Broker.drops_clearEndpoint idle
  obtain ⟨es', trace', told', quiet'⟩ := Link.unreported_clearCredentials unset.link
  refine ⟨⟨link.enabled, broker.enabled, credentials, endpoint, outbox, empty⟩, erased, es ++ es', ?_, ?_, ?_⟩
  · have between : unset.trace = s.trace ++ es := trace
    have atEnd : s.wiped.trace = unset.trace ++ es' := trace'
    rw [atEnd, between, List.append_assoc]
  · rw [Event.reports_append, told, told', List.append_nil]
  · intro linkOff brokerOff
    rw [quiet brokerOff, quiet' linkOff]
    rfl

/-! ## Starting blank -/

/-- It does not matter which empty store a station is started on. -/
theorem start_of_empty {store store' : σ} (empty : ∀ k, lookup k store = none) (empty' : ∀ k, lookup k store' = none)
    (settings : Settings) (watched : Bool) (radio : ρ) (client : β) (journal : Journal) :
    start settings watched radio client { journal with store } =
      { start settings watched radio client { journal with store := store' } with store } := by
  have noLink : ∀ {t : σ}, (∀ k, lookup k t = none) → ∀ l : Link ρ σ, l.store = t → l.init = l := by
    rintro _ none l rfl
    exact if_neg (by simp [bool?, none])
  have noBroker : ∀ {t : σ}, (∀ k, lookup k t = none) → ∀ (b : Broker β σ) linkUp, b.store = t → b.init linkUp = b := by
    rintro _ none b linkUp rfl
    exact if_neg (by simp [bool?, none])
  have credentials : ∀ {t : σ}, (∀ k, lookup k t = none) → Link.stored? t = none := by
    intro t none
    simp [Link.stored?, string?, none]
  have endpoint : ∀ {t : σ}, (∀ k, lookup k t = none) → Broker.stored? t = none := by
    intro t none
    simp [Broker.stored?, string?, none]
  unfold start
  dsimp only
  rw [noLink empty _ rfl, noLink empty' _ rfl, noBroker empty _ _ rfl, noBroker empty' _ _ rfl]
  simp only [Link.load, Broker.load, credentials empty, credentials empty', endpoint empty, endpoint empty']

/-! ## Staying blank -/

theorem Blank.tick (h : Blank s) : s.tick = s := by
  have link : s.onLink Link.tick = s := congrArg s.withLink (Link.tick_of_off h.linkOff)
  unfold Station.tick
  dsimp only
  rw [link]
  exact congrArg s.withBroker (Broker.tick_of_off h.brokerOff _)

omit [Radio ρ] in
/-- What is to be published is dropped. -/
theorem Blank.publish (h : Blank s) (hg : good s.store) (id : UInt32) (topic : String) (payload : List UInt8) :
    Rests good s (s.askBroker (Broker.publish id topic payload)).2 := by
  have dropped := Broker.publish_of_off h.brokerOff id topic payload
  have told : (s.askBroker (Broker.publish id topic payload)).2 = s.withBroker (s.broker.report id .dropped) :=
    congrArg (fun r : Delivery × Broker β σ => s.withBroker r.2) dropped
  rw [told]
  unfold Broker.report
  split
  · exact h.rests hg (grows_snoc (P := fun e => e.isIdle = true) rfl s.trace)
  · exact .refl h hg

/-- Cleared and erased once more, a blank station stays blank. -/
theorem Blank.wiped (h : Blank s) (reliable : Reliable good) (hg : good s.store) : Rests good s s.wiped := by
  obtain ⟨blank, erased, es, trace, -, quiet⟩ := blank_wiped reliable hg fun _ => h.outbox
  refine ⟨blank, erased, ?_⟩
  rw [trace, quiet h.linkOff h.brokerOff, List.append_nil]
  exact .refl _

end Station

end Telemetry
