import Telemetry.Proofs.Broker.Simulation
import Telemetry.Proofs.Secret
import Telemetry.Provisioning.Service

/-!
# The password of a broker

Broker managers that differ in nothing but secrets act alike. The password is handed to the client among the options
of a session, and to the store, and both are blind to it. No message, no notice and no report holds it.
-/

namespace Telemetry.Broker

open Transport

variable {β σ : Type} {A : β → β → Prop} {S : σ → σ → Prop} {b b' : Broker β σ}

/-- The managers differ at most in secrets, and so do their clients and their stores. -/
structure Resembles (A : β → β → Prop) (S : σ → σ → Prop) (b b' : Broker β σ) : Prop where
  board : Board.Resembles S b.toBoard b'.toBoard
  client : A b.client b'.client
  endpoint : Option.Rel Endpoint.Resembles b.endpoint b'.endpoint
  settings : b'.settings = b.settings
  topics : b'.topics = b.topics
  enabled : b'.enabled = b.enabled
  indicator : b'.indicator = b.indicator
  backoff : b'.backoff = b.backoff
  startedAt : b'.startedAt = b.startedAt
  outbox : b'.outbox = b.outbox
  reporting : b'.reporting = b.reporting

namespace Resembles

/-! ## The parts of an operation -/

theorem record (h : Resembles A S b b') {e e' : Event} (same : e'.masked = e.masked) :
    Resembles A S (b.record e) (b'.record e') :=
  { h with board := ⟨h.board.clock, by simp [Broker.record, h.board.trace, same], h.board.store⟩ }

theorem notify (h : Resembles A S b b') (notice : Option Status) :
    Resembles A S (b.notify notice) (b'.notify notice) := by
  cases notice with
  | none => exact h
  | some s => exact h.record rfl

theorem become (h : Resembles A S b b') (s : Status) : Resembles A S (b.become s) (b'.become s) := by
  have shown : Resembles A S { b with indicator := (b.indicator.set s).1 }
      { b' with indicator := (b.indicator.set s).1 } := { h with indicator := rfl }
  unfold Broker.become
  rw [h.indicator]
  exact shown.notify _

theorem endTick (h : Resembles A S b b') : Resembles A S b.endTick b'.endTick := by
  have shown : Resembles A S { b with indicator := b.indicator.endTick.1 }
      { b' with indicator := b.indicator.endTick.1 } := { h with indicator := rfl }
  unfold Broker.endTick
  rw [h.indicator]
  exact shown.notify _

theorem now (h : Resembles A S b b') : b'.now = b.now := congrArg (·.now) h.board.clock

theorem look (h : Resembles A S b b') : Resembles A S b.look b'.look :=
  { h with board := ⟨congrArg Clock.look h.board.clock, h.board.trace, h.board.store⟩ }

theorem beginTick (h : Resembles A S b b') : Resembles A S b.beginTick b'.beginTick :=
  { h with indicator := congrArg Indicator.beginTick h.indicator }

theorem resetBackoff (h : Resembles A S b b') : Resembles A S b.resetBackoff b'.resetBackoff :=
  { h with backoff := congrArg Backoff.reset h.backoff }

theorem report (h : Resembles A S b b') (id : UInt32) (d : Delivery) :
    Resembles A S (b.report id d) (b'.report id d) := by
  unfold Broker.report
  rw [h.reporting]
  split
  · exact h.record rfl
  · exact h

theorem onStore (h : Resembles A S b b') {store store' : σ} (same : S store store') :
    Resembles A S { b with store } { b' with store := store' } :=
  { h with board := ⟨h.board.clock, h.board.trace, same⟩ }

/-- The options of two sessions differ at most in the password. -/
theorem connectOptions_eq (h : Resembles A S b b') {e e' : Endpoint} (like : e.Resembles e') :
    b'.connectOptions e' = { b.connectOptions e with password := e'.password } := by
  simp only [connectOptions, h.settings, h.topics, like.host, like.port, like.username]

section Client

variable [Client β]

theorem closeSession (h : Resembles A S b b') (client : Client.Blind A) :
    Resembles A S b.closeSession b'.closeSession := by
  have closed : Resembles A S { b with client := Client.disconnect b.client }
      { b' with client := Client.disconnect b'.client } := { h with client := client.disconnect h.client }
  exact closed.record rfl

theorem send (h : Resembles A S b b') (client : Client.Blind A) (m : Message) :
    Alike (Resembles A S) (b.send m) (b'.send m) := by
  have sent := client.publish h.client m
  have given : Resembles A S { b with client := (Client.publish m b.client).2 }
      { b' with client := (Client.publish m b'.client).2 } := { h with client := sent.state }
  unfold Broker.send
  dsimp only
  rw [sent.answer]
  exact ⟨rfl, given.record rfl⟩

theorem openSession (h : Resembles A S b b') (client : Client.Blind A) {e e' : Endpoint} (like : e.Resembles e') :
    Resembles A S (b.openSession e) (b'.openSession e') := by
  have connected := client.connect h.client (b.connectOptions e) like.password
  have password := map_eq_of_rel (f := fun _ => mask) (fun _ _ _ => rfl) like.password
  have asked : Resembles A S (b.request e) (b'.request e') := by
    have looked := h.look
    have opened : Resembles A S
        { b.look with
          client := (Client.connect (b.connectOptions e) b.client).2
          startedAt := b.look.now
          backoff := if b.backoff.attempts = 0 then b.backoff.markStarted b.look.now else b.backoff }
        { b'.look with
          client := (Client.connect { b.connectOptions e with password := e'.password } b'.client).2
          startedAt := b.look.now
          backoff := if b.backoff.attempts = 0 then b.backoff.markStarted b.look.now else b.backoff } :=
      { looked with client := connected.state, startedAt := rfl, backoff := rfl }
    unfold request
    dsimp only
    rw [h.connectOptions_eq like, connected.answer, h.backoff, looked.now]
    refine opened.record ?_
    simp [Event.masked, connectOptions, password]
  have shown : b'.requestStatus e' = b.requestStatus e := by
    rw [requestStatus, requestStatus, h.connectOptions_eq like, connected.answer]
  rw [openSession_eq, openSession_eq, shown]
  exact asked.become _

end Client

section Storage

variable [Storage σ]

theorem persist (h : Resembles A S b b') (store : Storage.Blind S) (on : Bool) :
    Resembles A S (b.persist on) (b'.persist on) :=
  h.onStore (store.put h.board.store (.same _)).state

/-- Other passwords are kept and adopted in the same way. -/
theorem setEndpoint (h : Resembles A S b b') (store : Storage.Blind S) (host : String) (port : UInt16)
    (username : Option String) {password password' : Option String}
    (same : Option.Rel Exchangeable (Endpoint.given password) (Endpoint.given password')) :
    Alike (Resembles A S) (b.setEndpoint host port username password)
      (b'.setEndpoint host port username password') := by
  unfold Broker.setEndpoint
  obtain ⟨e, refused, refused'⟩ | ⟨e, e', made, made', like⟩ := Endpoint.make_cases host port username same
  · rw [refused, refused']
    exact ⟨rfl, h⟩
  · rw [made, made']
    have password := Store.resembles_of_rel Store.brokerPassword_mem like.password
    have writes : List.Forall₂ Storage.Blind.Write
        [ (Store.brokerHost, some (.string e.host)),
          (Store.brokerPort, some (.integer (Int64.ofNat e.port.toNat))),
          (Store.brokerUsername, e.username.map .string),
          (Store.brokerPassword, e.password.map .string) ]
        [ (Store.brokerHost, some (.string e'.host)),
          (Store.brokerPort, some (.integer (Int64.ofNat e'.port.toNat))),
          (Store.brokerUsername, e'.username.map .string),
          (Store.brokerPassword, e'.password.map .string) ] := by
      rw [like.host, like.port, like.username]
      exact .cons ⟨rfl, .same _⟩ (.cons ⟨rfl, .same _⟩ (.cons ⟨rfl, .same _⟩ (.cons ⟨rfl, password⟩ .nil)))
    have kept := store.putAll h.board.store writes
    dsimp only
    rw [kept.answer]
    split
    · exact ⟨rfl, h.onStore kept.state⟩
    · have stored := h.onStore kept.state
      exact ⟨rfl, { stored with endpoint := .some like }⟩

theorem forget (h : Resembles A S b b') (store : Storage.Blind S) :
    Alike (Resembles A S) b.forget b'.forget := by
  have gone : List.Forall₂ Storage.Blind.Write
      [ (Store.brokerHost, none), (Store.brokerPort, none), (Store.brokerUsername, none),
        (Store.brokerPassword, none) ] _ :=
    List.forall₂_same.2 fun w _ => ⟨rfl, .same _⟩
  have erased := store.putEach h.board.store gone
  unfold Broker.forget
  dsimp only
  rw [erased.answer]
  split
  · exact ⟨rfl, h.onStore erased.state⟩
  · have stored := h.onStore erased.state
    exact ⟨rfl, { stored with endpoint := .none }⟩

end Storage

end Resembles

/-! ## Loading -/

theorem stored?_rel [Storage σ] (blind : Storage.Blind S) {store store' : σ} (h : S store store') :
    Option.Rel Endpoint.Resembles (stored? store) (stored? store') := by
  have password := blind.string?_rel h Store.brokerPassword
  unfold stored?
  rw [blind.string?_eq h Store.brokerHost (by decide), blind.integer?_eq h,
    blind.string?_eq h Store.brokerUsername (by decide)]
  split
  · split
    · next host port _ _ _ =>
      obtain ⟨e, refused, refused'⟩ | ⟨e, e', made, made', like⟩ :=
        Endpoint.make_cases host (UInt16.ofNat port.toInt.toNat) (Storage.string? Store.brokerUsername store)
          (Endpoint.given_rel password)
      · rw [refused, refused']
        exact .none
      · rw [made, made']
        exact .some like
    · exact .none
  · exact .none

/-- Also the managers that are loaded from stores resemble each other. -/
theorem resembles_load [Storage σ] (store : Storage.Blind S) (settings : Settings.Broker) (deviceId : String)
    (watched : Bool) {c c' : β} (client : A c c') {board board' : Board σ} (h : Board.Resembles S board board') :
    Resembles A S (load settings deviceId watched c board) (load settings deviceId watched c' board') :=
  ⟨h, client, stored?_rel store h.store, rfl, rfl, rfl, rfl, rfl, rfl, rfl, rfl⟩

/-! ## What is seen -/

/-- The manager without its client, and with its password masked. -/
def State.masked (s : State β) : State Unit :=
  { s with client := (), endpoint := s.endpoint.map Endpoint.masked }

theorem Resembles.masked_eq (h : Resembles A S b b') : b'.toState.masked = b.toState.masked := by
  have endpoint := map_eq_of_rel (fun _ _ like => Endpoint.masked_eq like) h.endpoint
  simp only [State.masked, h.settings, h.topics, endpoint, h.enabled, h.indicator, h.backoff, h.startedAt,
    h.outbox, h.reporting]

theorem Resembles.isConnected_eq (h : Resembles A S b b') : b'.isConnected = b.isConnected :=
  congrArg (fun i => i.status.isConnected) h.indicator

theorem Resembles.diagnostic_eq (h : Resembles A S b b') : b'.diagnostic = b.diagnostic := by
  have endpoint := map_eq_of_rel (fun _ _ like => Endpoint.diagnostic_eq like) h.endpoint
  have status : b'.status = b.status := congrArg Indicator.status h.indicator
  have pending : b'.pending = b.pending := congrArg Outbox.size h.outbox
  rw [diagnostic, diagnostic, h.enabled, status, endpoint, pending]

theorem Resembles.report_eq (h : Resembles A S b b') :
    Provisioning.brokerReport b' = Provisioning.brokerReport b := by
  have status : b'.status = b.status := congrArg Indicator.status h.indicator
  have configured : b'.isConfigured = b.isConfigured := isSome_eq_of_rel h.endpoint
  have pending : b'.pending = b.pending := congrArg Outbox.size h.outbox
  have host := map_eq_of_rel (f := fun e : Endpoint => Json.string e.host)
    (fun _ _ like => congrArg Json.string like.host) h.endpoint
  have port := map_eq_of_rel (f := fun e : Endpoint => Json.ofNat e.port.toNat)
    (fun _ _ like => by rw [like.port]) h.endpoint
  simp only [Provisioning.brokerReport, h.enabled, status, h.isConnected_eq, configured, pending, host, port]

/-! ## Runs -/

variable [Client β] [Storage σ]

theorem resembles_simulation (client : Client.Blind A) (store : Storage.Blind S) :
    Simulation.Ticks (Resembles A S) where
  looks h :=
    { status := congrArg Indicator.status h.indicator
      enabled := h.enabled
      configured := isSome_eq_of_rel h.endpoint
      settings := h.settings
      topics := h.topics
      outbox := h.outbox
      stands := client.isConnected h.client
      intent := store.bool?_eq h.board.store _
      waited := fun _ => by rw [h.now, h.startedAt] }
  become h s _ := h.become s
  look h := h.look
  beginTick h := h.beginTick
  endTick h := h.endTick
  resetBackoff h := h.resetBackoff
  poll h := by
    rw [h.backoff, h.now]
    exact ⟨rfl, { h with backoff := rfl }⟩
  report h id d := h.report id d
  replace h q := { h with outbox := rfl }
  turn h on := { h with enabled := rfl }
  persist h on := h.persist store on
  send h m := h.send client m
  closeSession h := h.closeSession client
  openSession := by
    intro b b' h e e' found found'
    have like := h.endpoint
    rw [found, found'] at like
    cases like with
    | some like => exact h.openSession client like
  setEndpoint h host port username password := h.setEndpoint store host port username (Exchangeable.rel_refl _)
  forget h := h.forget store

end Telemetry.Broker
