import Telemetry.Proofs.Link.Simulation
import Telemetry.Proofs.Secret
import Telemetry.Provisioning.Service

/-!
# The secret of a network

Link managers that differ in nothing but secrets act alike: nothing that a manager does depends on what the secret
is. It is handed to the radio and to the store, and both are blind to it.
-/

namespace Telemetry.Link

variable {ρ σ : Type} {A : ρ → ρ → Prop} {S : σ → σ → Prop} {l l' : Link ρ σ}

/-- The managers differ at most in secrets, and so do their radios and their stores. -/
structure Resembles (A : ρ → ρ → Prop) (S : σ → σ → Prop) (l l' : Link ρ σ) : Prop where
  board : Board.Resembles S l.toBoard l'.toBoard
  radio : A l.radio l'.radio
  credentials : Option.Rel Credentials.Resembles l.credentials l'.credentials
  timeout : l'.timeout = l.timeout
  enabled : l'.enabled = l.enabled
  indicator : l'.indicator = l.indicator
  backoff : l'.backoff = l.backoff
  startedAt : l'.startedAt = l.startedAt

namespace Resembles

/-! ## The parts of an operation -/

theorem record (h : Resembles A S l l') {e e' : Event} (same : e'.masked = e.masked) :
    Resembles A S (l.record e) (l'.record e') :=
  { h with board := ⟨h.board.clock, by simp [Link.record, h.board.trace, same], h.board.store⟩ }

theorem notify (h : Resembles A S l l') (notice : Option Status) :
    Resembles A S (l.notify notice) (l'.notify notice) := by
  cases notice with
  | none => exact h
  | some s => exact h.record rfl

theorem become (h : Resembles A S l l') (s : Status) : Resembles A S (l.become s) (l'.become s) := by
  have shown : Resembles A S { l with indicator := (l.indicator.set s).1 }
      { l' with indicator := (l.indicator.set s).1 } := { h with indicator := rfl }
  unfold Link.become
  rw [h.indicator]
  exact shown.notify _

theorem endTick (h : Resembles A S l l') : Resembles A S l.endTick l'.endTick := by
  have shown : Resembles A S { l with indicator := l.indicator.endTick.1 }
      { l' with indicator := l.indicator.endTick.1 } := { h with indicator := rfl }
  unfold Link.endTick
  rw [h.indicator]
  exact shown.notify _

theorem now (h : Resembles A S l l') : l'.now = l.now := congrArg (·.now) h.board.clock

theorem look (h : Resembles A S l l') : Resembles A S l.look l'.look :=
  { h with board := ⟨congrArg Clock.look h.board.clock, h.board.trace, h.board.store⟩ }

theorem beginTick (h : Resembles A S l l') : Resembles A S l.beginTick l'.beginTick :=
  { h with indicator := congrArg Indicator.beginTick h.indicator }

theorem resetBackoff (h : Resembles A S l l') : Resembles A S l.resetBackoff l'.resetBackoff :=
  { h with backoff := congrArg Backoff.reset h.backoff }

theorem onStore (h : Resembles A S l l') {store store' : σ} (same : S store store') :
    Resembles A S { l with store } { l' with store := store' } :=
  { h with board := ⟨h.board.clock, h.board.trace, same⟩ }

section Radio

variable [Radio ρ]

theorem dissociate (h : Resembles A S l l') (radio : Radio.Blind A) (powerDown : Bool) :
    Resembles A S (l.dissociate powerDown) (l'.dissociate powerDown) := by
  have dropped : Resembles A S { l with radio := Radio.disconnect powerDown l.radio }
      { l' with radio := Radio.disconnect powerDown l'.radio } :=
    { h with radio := radio.disconnect h.radio powerDown }
  exact dropped.record rfl

theorem connect (h : Resembles A S l l') (radio : Radio.Blind A) {c c' : Credentials} (same : c.Resembles c') :
    Resembles A S (l.connect c) (l'.connect c') := by
  have associated := radio.associate h.radio c.identity same.secret
  have asked : Resembles A S (l.request c) (l'.request c') := by
    have looked := h.look
    have given : Resembles A S
        { l.look with
          radio := (Radio.associate c.identity c.secret l.radio).2
          startedAt := l.look.now
          backoff := if l.backoff.attempts = 0 then l.backoff.markStarted l.look.now else l.backoff }
        { l'.look with
          radio := (Radio.associate c.identity c'.secret l'.radio).2
          startedAt := l.look.now
          backoff := if l.backoff.attempts = 0 then l.backoff.markStarted l.look.now else l.backoff } :=
      { looked with radio := associated.state, startedAt := rfl, backoff := rfl }
    unfold request
    dsimp only
    rw [same.identity, associated.answer, h.backoff, looked.now]
    exact given.record rfl
  have shown : l'.requestStatus c' = l.requestStatus c := by
    rw [requestStatus, requestStatus, same.identity, associated.answer]
  rw [connect_eq, connect_eq, shown]
  exact asked.become _

end Radio

section Storage

variable [Storage σ]

theorem persist (h : Resembles A S l l') (store : Storage.Blind S) (on : Bool) :
    Resembles A S (l.persist on) (l'.persist on) :=
  h.onStore (store.put h.board.store (.same _)).state

/-- Other secrets are kept and adopted in the same way. -/
theorem setCredentials (h : Resembles A S l l') (store : Storage.Blind S) (identity : String)
    {secret secret' : String} (same : Exchangeable secret secret') :
    Alike (Resembles A S) (l.setCredentials identity secret) (l'.setCredentials identity secret') := by
  unfold Link.setCredentials
  obtain ⟨e, refused, refused'⟩ | ⟨c, c', made, made', like⟩ := Credentials.make_cases identity same
  · rw [refused, refused']
    exact ⟨rfl, h⟩
  · rw [made, made']
    have writes : List.Forall₂ Storage.Blind.Write
        [(Store.linkIdentity, some (.string c.identity)), (Store.linkSecret, some (.string c.secret))]
        [(Store.linkIdentity, some (.string c'.identity)), (Store.linkSecret, some (.string c'.secret))] := by
      rw [like.identity]
      exact .cons ⟨rfl, .same _⟩ (.cons ⟨rfl, .secret Store.linkSecret_mem like.secret⟩ .nil)
    have kept := store.putAll h.board.store writes
    dsimp only
    rw [kept.answer]
    split
    · exact ⟨rfl, h.onStore kept.state⟩
    · have stored := h.onStore kept.state
      exact ⟨rfl, resetBackoff { stored with credentials := .some like }⟩

theorem forget (h : Resembles A S l l') (store : Storage.Blind S) :
    Alike (Resembles A S) l.forget l'.forget := by
  have erased := store.putEach h.board.store
    (.cons ⟨rfl, .same none⟩ (.cons ⟨rfl, .same none⟩ .nil) :
      List.Forall₂ Storage.Blind.Write [(Store.linkIdentity, none), (Store.linkSecret, none)] _)
  unfold Link.forget
  dsimp only
  rw [erased.answer]
  split
  · exact ⟨rfl, h.onStore erased.state⟩
  · have stored := h.onStore erased.state
    exact ⟨rfl, { stored with credentials := .none }⟩

end Storage

end Resembles

/-! ## Loading -/

theorem stored?_rel [Storage σ] (blind : Storage.Blind S) {store store' : σ} (h : S store store') :
    Option.Rel Credentials.Resembles (stored? store) (stored? store') := by
  have secret := blind.string?_rel h Store.linkSecret
  unfold stored?
  rw [blind.string?_eq h Store.linkIdentity (by decide)]
  cases Storage.string? Store.linkIdentity store with
  | none => exact .none
  | some identity =>
    generalize Storage.string? Store.linkSecret store = known at secret ⊢
    generalize Storage.string? Store.linkSecret store' = known' at secret ⊢
    cases secret with
    | none => exact .none
    | some same =>
      obtain ⟨e, refused, refused'⟩ | ⟨c, c', made, made', like⟩ := Credentials.make_cases identity same
      · simp only [refused, refused']
        exact .none
      · simp only [made, made']
        exact .some like

/-- Also the managers that are loaded from stores resemble each other. -/
theorem resembles_load [Storage σ] (store : Storage.Blind S) (settings : Settings.Link) (watched : Bool)
    {r r' : ρ} (radio : A r r') {board board' : Board σ} (h : Board.Resembles S board board') :
    Resembles A S (load settings watched r board) (load settings watched r' board') :=
  ⟨h, radio, stored?_rel store h.store, rfl, rfl, rfl, rfl, rfl⟩

/-! ## What is seen -/

/-- The manager without its radio, and with its secret masked. -/
def State.masked (s : State ρ) : State Unit :=
  { s with radio := (), credentials := s.credentials.map Credentials.masked }

theorem Resembles.masked_eq (h : Resembles A S l l') : l'.toState.masked = l.toState.masked := by
  have credentials := map_eq_of_rel (fun _ _ like => Credentials.masked_eq like) h.credentials
  simp only [State.masked, h.timeout, credentials, h.enabled, h.indicator, h.backoff, h.startedAt]

theorem Resembles.isConnected_eq (h : Resembles A S l l') : l'.isConnected = l.isConnected :=
  congrArg (fun i => i.status.isConnected) h.indicator

theorem Resembles.identity?_eq (h : Resembles A S l l') : l'.identity? = l.identity? :=
  map_eq_of_rel (fun _ _ like => like.identity) h.credentials

theorem Resembles.diagnostic_eq (h : Resembles A S l l') : l'.diagnostic = l.diagnostic := by
  have credentials := map_eq_of_rel (fun _ _ like => Credentials.diagnostic_eq like) h.credentials
  have status : l'.status = l.status := congrArg Indicator.status h.indicator
  rw [diagnostic, diagnostic, h.enabled, status, credentials]

variable [Radio ρ]

theorem Resembles.signal_eq (h : Resembles A S l l') (radio : Radio.Blind A) : l'.signal = l.signal := by
  rw [signal, signal, h.isConnected_eq, radio.signal h.radio]

theorem Resembles.address?_eq (h : Resembles A S l l') (radio : Radio.Blind A) : l'.address? = l.address? := by
  rw [address?, address?, h.isConnected_eq, radio.address h.radio]

/-! ## Runs -/

variable [Storage σ]

theorem Resembles.looks (h : Resembles A S l l') (radio : Radio.Blind A) (store : Storage.Blind S) :
    Looks l l' where
  status := congrArg Indicator.status h.indicator
  enabled := h.enabled
  known := isSome_eq_of_rel h.credentials
  timeout := h.timeout
  stands := radio.isConnected h.radio
  intent := store.bool?_eq h.board.store _
  waited _ := by rw [h.now, h.startedAt]

theorem resembles_simulation (radio : Radio.Blind A) (store : Storage.Blind S) :
    Simulation (Resembles A S) where
  looks h := h.looks radio store
  become h s _ := h.become s
  look h := h.look
  beginTick h := h.beginTick
  endTick h := h.endTick
  resetBackoff h := h.resetBackoff
  poll h := by
    rw [h.backoff, h.now]
    exact ⟨rfl, { h with backoff := rfl }⟩
  turn h on := { h with enabled := rfl }
  persist h on := h.persist store on
  dissociate h powerDown := h.dissociate radio powerDown
  connect := by
    intro l l' h c c' found found'
    have like := h.credentials
    rw [found, found'] at like
    cases like with
    | some like => exact h.connect radio like
  setCredentials h identity secret := h.setCredentials store identity (.refl secret)
  forget h := h.forget store

theorem Resembles.report_eq (h : Resembles A S l l') (radio : Radio.Blind A) (store : Storage.Blind S) :
    Provisioning.linkReport l' = Provisioning.linkReport l := by
  have looks := h.looks radio store
  simp only [Provisioning.linkReport, looks.enabled, looks.known, looks.status, h.isConnected_eq, h.identity?_eq,
    h.address?_eq radio, h.signal_eq radio]

end Telemetry.Link
