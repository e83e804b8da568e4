import Telemetry.Proofs.Bench
import Telemetry.Proofs.Broker.Secret
import Telemetry.Proofs.Link.Secret
import Telemetry.Proofs.Station.Simulation

/-!
# Secrets stay secret

A run of a station is repeated with other secrets and other passwords, wherever some are set. All that is seen of the
two runs is the same: what is answered, what is told, what is reported, and what the diagnostics show. Only the
calls that hand a secret to the radio, to the client or to the store differ, and they differ in nothing else.
-/

namespace Telemetry.Station

variable {ρ β σ : Type}

/-! ## Runs that differ in secrets -/

/-- The operations differ at most in the secrets that they bring. -/
inductive Op.Resembles : Op → Op → Prop
  | same (op : Op) : Op.Resembles op op
  | setCredentials (identity : String) {secret secret' : String} (h : Exchangeable secret secret') :
    Op.Resembles (.link (.setCredentials identity secret)) (.link (.setCredentials identity secret'))
  | setEndpoint (host : String) (port : UInt16) (username : Option String) {password password' : Option String}
    (h : Option.Rel Exchangeable (Endpoint.given password) (Endpoint.given password')) :
    Op.Resembles (.broker (.setEndpoint host port username password))
      (.broker (.setEndpoint host port username password'))
  | writeCredentials {raw raw' : List UInt8} {identity secret secret' : String}
    (first : Provisioning.read Provisioning.parseCredentials raw = .ok ⟨identity, secret⟩)
    (second : Provisioning.read Provisioning.parseCredentials raw' = .ok ⟨identity, secret'⟩)
    (h : Exchangeable secret secret') : Op.Resembles (.writeCredentials raw) (.writeCredentials raw')
  | writeEndpoint {raw raw' : List UInt8} {host : String} {port : UInt16} {username : Option String}
    {password password' : Option String}
    (first : Provisioning.read Provisioning.parseEndpoint raw = .ok ⟨host, port, username, password⟩)
    (second : Provisioning.read Provisioning.parseEndpoint raw' = .ok ⟨host, port, username, password'⟩)
    (h : Option.Rel Exchangeable (Endpoint.given password) (Endpoint.given password')) :
    Op.Resembles (.writeEndpoint raw) (.writeEndpoint raw')

/-- Time passes and the equipment moves on by itself, and then one thing is asked of the station. The trace and the
managers stay as they are until then. -/
structure Turn (ρ β σ : Type) extends Clock where
  radio : ρ → ρ := id
  client : β → β := id
  store : σ → σ := id
  op : Op

/-- The station at a turn, before it is asked. -/
def meetTurn (turn : Turn ρ β σ) (s : Station ρ β σ) : Station ρ β σ :=
  { s with
    toClock := turn.toClock
    store := turn.store s.store
    linkState := { s.linkState with radio := turn.radio s.linkState.radio }
    brokerState := { s.brokerState with client := turn.client s.brokerState.client } }

def Turn.ask [Radio ρ] [Client β] [Storage σ] (turn : Turn ρ β σ) (s : Station ρ β σ) : Answer × Station ρ β σ :=
  turn.op.ask (s.meetTurn turn)

/-- The turns come at the same time and differ at most in the secrets that are brought. The equipment moves on alike:
what could not be told apart before cannot be told apart after. -/
structure Turn.Resembles (A : ρ → ρ → Prop) (C : β → β → Prop) (S : σ → σ → Prop) (turn turn' : Turn ρ β σ) :
    Prop where
  clock : turn'.toClock = turn.toClock
  radio : ∀ {r r'}, A r r' → A (turn.radio r) (turn'.radio r')
  client : ∀ {c c'}, C c c' → C (turn.client c) (turn'.client c')
  store : ∀ {s s'}, S s s' → S (turn.store s) (turn'.store s')
  op : turn.op.Resembles turn'.op

/-! ## What is seen -/

/-- All that is seen of a station, with the secrets masked: what it has done and what it holds, and every form in
which it shows that. -/
structure View where
  clock : Clock
  trace : List Event
  stored : String → Option Store.Value
  link : Link.State Unit
  broker : Broker.State Unit
  connectivity : Connectivity
  signal : Int
  report : String
  /-- What a reader gets who has room for so many bytes. -/
  readReport : Nat → List UInt8
  linkDiagnostic : String
  brokerDiagnostic : String
  credentialsDiagnostic : Option String
  endpointDiagnostic : Option String

def view [Radio ρ] [Storage σ] (s : Station ρ β σ) : View where
  clock := s.toClock
  trace := s.trace.map Event.masked
  stored := Storage.shown s.store
  link := s.linkState.masked
  broker := s.brokerState.masked
  connectivity := s.connectivity
  signal := s.link.signal
  report := Provisioning.report s
  readReport limit := Provisioning.readReport limit s
  linkDiagnostic := s.link.diagnostic
  brokerDiagnostic := s.broker.diagnostic
  credentialsDiagnostic := s.linkState.credentials.map Credentials.diagnostic
  endpointDiagnostic := s.brokerState.endpoint.map Endpoint.diagnostic

section Runs

variable {A : ρ → ρ → Prop} {C : β → β → Prop} {S : σ → σ → Prop} {s s' : Station ρ β σ}

abbrev Resembling (A : ρ → ρ → Prop) (C : β → β → Prop) (S : σ → σ → Prop) (s s' : Station ρ β σ) : Prop :=
  Matched (Link.Resembles A S) (Broker.Resembles C S) s s'

theorem resembling_meetTurn {turn turn' : Turn ρ β σ} (like : turn.Resembles A C S turn')
    (h : Resembling A C S s s') : Resembling A C S (s.meetTurn turn) (s'.meetTurn turn') := by
  have board : Board.Resembles S (s.meetTurn turn).toBoard (s'.meetTurn turn').toBoard :=
    ⟨like.clock, h.link.board.trace, like.store h.link.board.store⟩
  constructor
  · exact { h.link with radio := like.radio h.link.radio, board }
  · exact { h.broker with client := like.client h.broker.client, board }

variable [Radio ρ] [Storage σ]

theorem view_eq (radio : Radio.Blind A) (store : Storage.Blind S) (h : Resembling A C S s s') :
    s'.view = s.view := by
  have report : Provisioning.report s' = Provisioning.report s := by
    rw [Provisioning.report, Provisioning.report, h.link.report_eq radio store, h.broker.report_eq]
  have connectivity : s'.connectivity = s.connectivity := by
    simp only [Station.connectivity, h.link.isConnected_eq, h.broker.isConnected_eq, h.link.address?_eq radio]
  have clock : s'.toClock = s.toClock := h.link.board.clock
  have trace : s'.trace.map Event.masked = s.trace.map Event.masked := h.link.board.trace
  have stored : Storage.shown s'.store = Storage.shown s.store := store.shown_eq h.link.board.store
  have link : s'.linkState.masked = s.linkState.masked := h.link.masked_eq
  have broker : s'.brokerState.masked = s.brokerState.masked := h.broker.masked_eq
  have credentials : s'.linkState.credentials.map Credentials.diagnostic = s.linkState.credentials.map _ :=
    map_eq_of_rel (fun _ _ like => Credentials.diagnostic_eq like) h.link.credentials
  have endpoint : s'.brokerState.endpoint.map Endpoint.diagnostic = s.brokerState.endpoint.map _ :=
    map_eq_of_rel (fun _ _ like => Endpoint.diagnostic_eq like) h.broker.endpoint
  simp only [view, Provisioning.readReport, clock, trace, stored, link, broker, connectivity, h.link.signal_eq radio,
    report, h.link.diagnostic_eq, h.broker.diagnostic_eq, credentials, endpoint]

variable [Client β]

theorem resembles_simulation (radio : Radio.Blind A) (client : Client.Blind C) (store : Storage.Blind S) :
    Simulation (Link.Resembles A S) (Broker.Resembles C S) (Board.Resembles S) where
  link := Link.resembles_simulation radio store
  broker := Broker.resembles_simulation client store
  linkBoard h := h.board
  brokerBoard h := h.board
  linkOn h board := { h with board }
  brokerOn h board := { h with board }
  linkReport h := h.report_eq radio store
  brokerReport h := h.report_eq

theorem resembling_ask (radio : Radio.Blind A) (client : Client.Blind C) (store : Storage.Blind S) {op op' : Op}
    (like : op.Resembles op') (h : Resembling A C S s s') :
    Alike (Resembling A C S) (op.ask s) (op'.ask s') := by
  have sim := resembles_simulation radio client store
  cases like with
  | same => exact sim.ask op h
  | setCredentials identity same =>
    exact (sim.askLink h (h.link.setCredentials store identity same)).map Answer.outcome
  | setEndpoint host port username same =>
    have adopted := (h.broker.setEndpoint store host port username same).map Broker.Answer.outcome
    exact (sim.askBroker h adopted).map Answer.broker
  | writeCredentials first second same =>
    refine Alike.map ?_ Answer.outcome
    simp only [Provisioning.writeCredentials, first, second]
    exact sim.askLink h (h.link.setCredentials store _ same)
  | writeEndpoint first second same =>
    refine Alike.map ?_ Answer.outcome
    simp only [Provisioning.writeEndpoint, first, second]
    exact sim.askBroker h (h.broker.setEndpoint store _ _ _ same)

theorem resembling_start (radio : Radio.Blind A) (client : Client.Blind C) (store : Storage.Blind S)
    (settings : Settings) (watched : Bool) {r r' : ρ} (hr : A r r') {c c' : β} (hc : C c c')
    {board board' : Board σ} (hb : Board.Resembles S board board') :
    Resembling A C S (start settings watched r c board) (start settings watched r' c' board') := by
  refine (resembles_simulation radio client store).start settings watched ?_ ?_
  · exact Link.resembles_load store settings.link watched hr hb
  · exact Broker.resembles_load store settings.broker settings.device.id watched hc

theorem resembling_turn (radio : Radio.Blind A) (client : Client.Blind C) (store : Storage.Blind S)
    {turn turn' : Turn ρ β σ} (like : turn.Resembles A C S turn') (h : Resembling A C S s s') :
    Alike (Resembling A C S) (turn.ask s) (turn'.ask s') :=
  resembling_ask radio client store like.op (resembling_meetTurn like h)

/-- A run that is repeated with other secrets looks the same, from the start to the end. -/
theorem view_of_secrets (radio : Radio.Blind A) (client : Client.Blind C) (store : Storage.Blind S)
    {turns turns' : List (Turn ρ β σ)} (same : List.Forall₂ (Turn.Resembles A C S) turns turns')
    (settings : Settings) (watched : Bool) {r r' : ρ} (hr : A r r') {c c' : β} (hc : C c c')
    {board board' : Board σ} (hb : Board.Resembles S board board') :
    observed Turn.ask view turns' (start settings watched r' c' board') =
      observed Turn.ask view turns (start settings watched r c board) := by
  have started := resembling_start radio client store settings watched hr hc hb
  refine observed_forall₂ (fun _ _ h => view_eq radio store h) ?_ same started
  intro turn turn' like s s' h
  exact resembling_turn radio client store like h

end Runs

/-! A station is set up with a network and a broker and turned on, once with some secrets and once with others. The
store holds other secrets from before. -/

namespace Sample

/-- The board of a station that has been given credentials earlier on. -/
def board (secret : String) : Board Store.Flash where
  now := 0
  store := { values := [(Store.linkIdentity, .string "home"), (Store.linkSecret, .string secret)] }

/-- The radio connects at the third turn and the client at the seventh. At the fourth the password cannot be written,
and what has been written before it is undone. -/
def turns (secret password : String) : List (Turn Bench.Radio Bench.Client Store.Flash) :=
  let write : Op := .writeEndpoint (Text.utf8 ("broker:1883|user|" ++ password))
  [ { now := 1, op := .link (.setCredentials "attic" secret) },
    { now := 2, op := .link .enable },
    { now := 3, op := .tick, radio := fun r => { r with connected := true } },
    { now := 4, op := write, store := fun f => { f with failing := [Store.brokerPassword] } },
    { now := 5, op := write, store := fun f => { f with failing := [] } },
    { now := 6, op := .control [3] },
    { now := 7, op := .tick, client := fun c => { c with connected := true } },
    { now := 8, op := .control [6] } ]

theorem resembles_secrets : Exchangeable "hunter22" "swordfish" :=
  .inr ⟨⟨by decide, by decide⟩, by decide, by decide⟩

theorem resembles_board : Board.Resembles Store.Flash.Resembles (board "correct") (board "battery") where
  clock := rfl
  trace := rfl
  store := by
    have secrets : Exchangeable "correct" "battery" := .inr ⟨⟨by decide, by decide⟩, by decide, by decide⟩
    exact ⟨rfl, rfl, .cons ⟨rfl, .same _⟩ (.cons ⟨rfl, .secret Store.linkSecret_mem secrets⟩ .nil)⟩

theorem resembles_write :
    Op.Resembles (.writeEndpoint (Text.utf8 ("broker:1883|user|" ++ "mellon")))
      (.writeEndpoint (Text.utf8 ("broker:1883|user|" ++ "xyzzy"))) := by
  have first : Provisioning.read Provisioning.parseEndpoint (Text.utf8 ("broker:1883|user|" ++ "mellon")) =
      .ok ⟨"broker", 1883, some "user", some "mellon"⟩ := by decide +kernel
  have second : Provisioning.read Provisioning.parseEndpoint (Text.utf8 ("broker:1883|user|" ++ "xyzzy")) =
      .ok ⟨"broker", 1883, some "user", some "xyzzy"⟩ := by decide +kernel
  refine .writeEndpoint first second (Endpoint.given_rel (.some (.inr ⟨⟨?_, ?_⟩, ?_, ?_⟩))) <;> decide

/-- What happens to the equipment of the bench happens to it whatever the secrets are. -/
theorem resembles_turn (clock : Clock) {op op' : Op} (like : op.Resembles op') {radio : Bench.Radio → Bench.Radio}
    {client : Bench.Client → Bench.Client} {store : Store.Flash → Store.Flash}
    (connects : ∀ {c c'}, Bench.Client.Resembles c c' → Bench.Client.Resembles (client c) (client c'))
    (wears : ∀ {f f'}, Store.Flash.Resembles f f' → Store.Flash.Resembles (store f) (store f')) :
    Turn.Resembles Eq Bench.Client.Resembles Store.Flash.Resembles ⟨clock, radio, client, store, op⟩
      ⟨clock, radio, client, store, op'⟩ :=
  ⟨rfl, congrArg radio, connects, wears, like⟩

theorem resembles_turns :
    List.Forall₂ (Turn.Resembles Eq Bench.Client.Resembles Store.Flash.Resembles)
      (turns "hunter22" "mellon") (turns "swordfish" "xyzzy") := by
  have connects {c c' : Bench.Client} (h : Bench.Client.Resembles c c') :
      Bench.Client.Resembles { c with connected := true } { c' with connected := true } := by
    obtain ⟨options, rfl⟩ := h
    exact ⟨options, rfl⟩
  have wears (failing : List String) {f f' : Store.Flash} (h : Store.Flash.Resembles f f') :
      Store.Flash.Resembles { f with failing } { f' with failing } :=
    ⟨rfl, h.eraseFails, h.values⟩
  exact
    .cons (resembles_turn { now := 1 } (.setCredentials "attic" resembles_secrets) id id) <|
    .cons (resembles_turn { now := 2 } (.same _) id id) <|
    .cons (resembles_turn { now := 3 } (.same _) id id) <|
    .cons (resembles_turn { now := 4 } resembles_write id (wears _)) <|
    .cons (resembles_turn { now := 5 } resembles_write id (wears _)) <|
    .cons (resembles_turn { now := 6 } (.same _) id id) <|
    .cons (resembles_turn { now := 7 } (.same _) connects id) <|
    .cons (resembles_turn { now := 8 } (.same _) id id) .nil

/-- The two runs look the same, although the secrets and the passwords are not. -/
theorem view_setUp :
    List.Forall₂ (Turn.Resembles Eq Bench.Client.Resembles Store.Flash.Resembles)
      (turns "hunter22" "mellon") (turns "swordfish" "xyzzy") ∧
    observed Turn.ask view (turns "swordfish" "xyzzy") (start {} true {} {} (board "battery")) =
      observed Turn.ask view (turns "hunter22" "mellon") (start {} true {} {} (board "correct")) := by
  have client : Bench.Client.Resembles {} {} := ⟨none, rfl⟩
  have seen := view_of_secrets Bench.Radio.blind Bench.Client.blind Store.Flash.blind resembles_turns {} true
    (Eq.refl {}) client resembles_board
  exact ⟨resembles_turns, seen⟩

end Sample

end Telemetry.Station
