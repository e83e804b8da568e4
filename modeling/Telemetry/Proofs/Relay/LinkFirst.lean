import Telemetry.Proofs.Broker.Log
import Telemetry.Proofs.Device
import Telemetry.Proofs.Link.Simulation
import Telemetry.Proofs.Relay.Restart

/-!
# The link comes first

A broker session is requested only while the link stands, and none is being set up or stands at the end of a tick
that leaves the link down. The broker manager is told by its caller whether the link is up, so this is a matter of who
calls it and when: whatever a device does of its own accord asks the link at that moment.
-/

namespace Telemetry

/-! ## The link requests no session -/

namespace Link

variable {ρ σ : Type} [Radio ρ] [Storage σ]

/-- What has been added to a trace holds no request for a session. This is a simulation of a link by itself. -/
theorem quiet_simulation (t : List Event) :
    Simulation fun l l' : Link ρ σ => l' = l ∧ Grows (¬ ·.IsOpening) t l.trace := by
  have notified : ∀ (notice : Option Status) (l : Link ρ σ), Grows (¬ ·.IsOpening) t l.trace →
      Grows (¬ ·.IsOpening) t (l.notify notice).trace := by
    intro notice l h
    cases notice with
    | none => exact h
    | some s => exact h.trans (grows_snoc id _)
  constructor
  case looks =>
    rintro _ l ⟨rfl, -⟩
    exact ⟨rfl, rfl, rfl, rfl, rfl, rfl, fun _ => rfl⟩
  case become =>
    rintro _ l ⟨rfl, h⟩ s -
    exact ⟨rfl, notified _ _ h⟩
  case endTick =>
    rintro _ l ⟨rfl, h⟩
    exact ⟨rfl, notified _ _ h⟩
  case poll =>
    rintro _ l ⟨rfl, h⟩
    exact ⟨rfl, rfl, h⟩
  case dissociate =>
    rintro _ l ⟨rfl, h⟩ powerDown
    exact ⟨rfl, h.trans (grows_snoc id _)⟩
  case connect =>
    rintro _ l ⟨rfl, h⟩ c c' found found'
    obtain rfl : c = c' := Option.some.inj (found.symm.trans found')
    exact ⟨rfl, notified _ _ (h.trans (grows_snoc id _))⟩
  case setCredentials =>
    rintro _ l ⟨rfl, h⟩ identity secret
    refine ⟨rfl, rfl, ?_⟩
    obtain ⟨e, store, refused⟩ | ⟨c, store, -, adopted⟩ := setCredentials_cases identity secret l
    · rw [refused]
      exact h
    · rw [adopted]
      exact h
  case forget =>
    rintro _ l ⟨rfl, h⟩
    refine ⟨rfl, rfl, ?_⟩
    unfold forget
    dsimp only
    split <;> exact h
  all_goals
    rintro _ l ⟨rfl, h⟩
    first
    | exact ⟨rfl, h⟩
    | exact fun _ => ⟨rfl, h⟩

theorem grows_perform (op : Op) (l : Link ρ σ) : Grows (¬ ·.IsOpening) l.trace (op.perform l).2.trace :=
  ((quiet_simulation l.trace).perform op ⟨rfl, .refl _⟩).state.2

end Link

/-! ## Stations -/

namespace Station

variable {ρ β σ : Type}

/-- A session is requested on the way from `s` to `s'` only if the link stands, and then it is left alone. -/
def LinkFirst (s s' : Station ρ β σ) : Prop :=
  Grows (fun e => e.IsOpening → s.link.status = .connected ∧ s'.linkState = s.linkState) s.trace s'.trace

/-- The way from `s` to `s'` leaves the link alone, and a session is requested only if the link stands. -/
structure Guarded (s s' : Station ρ β σ) : Prop where
  link : s'.linkState = s.linkState
  told : Grows (fun e => e.IsOpening → s.link.status = .connected) s.trace s'.trace

variable {s s' s'' : Station ρ β σ}

theorem linkFirst_of_grows (h : Grows (¬ ·.IsOpening) s.trace s'.trace) : LinkFirst s s' :=
  h.mono fun _ other opening => absurd opening other

theorem Guarded.linkFirst (h : Guarded s s') : LinkFirst s s' :=
  h.told.mono fun _ told opening => ⟨told opening, h.link⟩

theorem Guarded.status (h : Guarded s s') : s'.link.status = s.link.status :=
  congrArg (·.indicator.status) h.link

theorem Guarded.trans (h : Guarded s s') (h' : Guarded s' s'') : Guarded s s'' := by
  refine ⟨h'.link.trans h.link, h.told.trans (h'.told.mono ?_)⟩
  intro e told opening
  exact h.status ▸ told opening

section Broker

variable [Client β] [Storage σ]

/-- An operation of the broker is guarded if the link stands where it is said to be up. -/
theorem guarded_askBroker (op : Broker.Op) (s : Station ρ β σ)
    (honest : op.linkUp? = some true → s.link.status = .connected) : Guarded s (s.askBroker op.perform).2 := by
  have rest : Broker.AdmitsRest fun e => e.IsOpening → s.link.status = .connected :=
    fun _ other opening => absurd opening other
  exact ⟨rfl, Broker.logs_perform rest op fun up _ _ _ _ => honest up⟩

theorem guarded_enable (s : Station ρ β σ) :
    Guarded s (s.askBroker (Broker.Op.enable s.link.isConnected).perform).2 := by
  refine guarded_askBroker _ s ?_
  intro up
  exact Status.isConnected_iff.1 (Option.some.inj up)

end Broker

section Link

variable [Radio ρ]

theorem grows_askLink [Storage σ] (op : Link.Op) (s : Station ρ β σ) :
    Grows (¬ ·.IsOpening) s.trace (s.askLink op.perform).2.trace :=
  Link.grows_perform op s.link

/-- The station at the moment when its link has been served. Only a tick serves it. -/
def Op.served (op : Op) (s : Station ρ β σ) : Station ρ β σ :=
  match op with
  | tick => s.onLink Link.tick
  | _ => s

theorem grows_served [Storage σ] (op : Op) (s : Station ρ β σ) :
    Grows (¬ ·.IsOpening) s.trace (op.served s).trace := by
  cases op with
  | tick => exact grows_askLink .tick s
  | _ => exact .refl _

end Link

variable [Radio ρ] [Client β]

variable {settings : Settings.Broker} {topics : Topics}

/-- A tick that leaves the link down leaves no session requested or standing. -/
theorem link_of_isActive_tick (standing : s.broker.Standing settings topics)
    (active : s.tick.broker.status.isActive = true) : s.tick.link.status = .connected := by
  have served : (s.onLink Link.tick).broker.Standing settings topics :=
    ⟨standing.settings, standing.topics, standing.active⟩
  exact Status.isConnected_iff.1 (served.linkUp_of_isActive_tick active)

variable [Storage σ]

theorem guarded_tick (s : Station ρ β σ) : Guarded (s.onLink Link.tick) s.tick := by
  refine guarded_askBroker (.tick (s.onLink Link.tick).link.isConnected) _ ?_
  intro up
  exact Status.isConnected_iff.1 (Option.some.inj up)

/-- Is it the station itself that says whether the link is up? -/
def Op.isOwn : Op → Bool
  | broker op => op.linkUp?.isNone
  | _ => true

theorem linkFirst_apply (c : Provisioning.Control) (s : Station ρ β σ) :
    LinkFirst s (Provisioning.apply c s).2 := by
  cases c with
  | enableLink => exact linkFirst_of_grows (grows_askLink .enable s)
  | disableLink => exact linkFirst_of_grows (grows_askLink .disable s)
  | enableBroker => exact (guarded_enable s).linkFirst
  | disableBroker => exact (guarded_askBroker .disable s nofun).linkFirst
  | testConnection => exact (guarded_askBroker .testConnection s nofun).linkFirst
  | getStatus => exact linkFirst_of_grows (.refl _)

/-- Once the link has been served, an operation requests a session only if the link stands. -/
theorem linkFirst_perform (op : Op) (own : op.isOwn = true) (s : Station ρ β σ) :
    LinkFirst (op.served s) (op.perform s) := by
  have unchanged : LinkFirst s s := linkFirst_of_grows (.refl _)
  cases op with
  | link op => exact linkFirst_of_grows (grows_askLink op s)
  | broker op =>
    refine (guarded_askBroker op s ?_).linkFirst
    intro up
    simp [Op.isOwn, up] at own
  | tick => exact (guarded_tick s).linkFirst
  | publish record => exact (guarded_askBroker (.publishRecord record) s nofun).linkFirst
  | writeCredentials raw =>
    unfold Op.perform Provisioning.writeCredentials
    dsimp only
    split
    · exact unchanged
    · next w _ => exact linkFirst_of_grows (grows_askLink (.setCredentials w.identity w.secret) s)
  | writeEndpoint raw =>
    unfold Op.perform Provisioning.writeEndpoint
    dsimp only
    split
    · exact unchanged
    · next w _ =>
      exact (guarded_askBroker (.setEndpoint w.host w.port w.username w.password) s nofun).linkFirst
  | control raw =>
    unfold Op.perform Provisioning.control
    dsimp only
    split
    · exact unchanged
    · next c _ => exact linkFirst_apply c s

theorem Operated.standing (h : Operated s s') (standing : s.broker.Standing settings topics) :
    s'.broker.Standing settings topics := by
  induction h with
  | refl => exact standing
  | link _ op ih => exact ⟨ih.settings, ih.topics, ih.active⟩
  | broker _ op ih => exact ih.perform op
  | surround _ radio client journal ih => exact ⟨ih.settings, ih.topics, ih.active⟩

/-- A station starts without a session: its link has only just been turned on, or is off. -/
theorem grows_start (settings : Settings) (watched : Bool) (radio : ρ) (client : β) (board : Board σ) :
    Grows (¬ ·.IsOpening) board.trace (start settings watched radio client board).trace := by
  let loaded := Link.load settings.link watched radio board
  have down : loaded.init.isConnected = false := by
    obtain turned | kept := Link.init_cases loaded
    · cases turned with
      | busy busy _ => simp [Link.isBusy, loaded, Link.load] at busy
      | refuses _ _ _ status => simp [Link.isConnected, status, Status.isConnected]
      | starts _ _ _ _ status =>
        obtain connecting | refused := status
        · simp [Link.isConnected, connecting, Status.isConnected]
        · simp [Link.isConnected, refused, Status.isConnected]
    · rw [kept]
      rfl
  have link : Grows (¬ ·.IsOpening) board.trace loaded.init.trace := Link.grows_perform .init loaded
  let resting := Broker.load settings.broker settings.device.id watched client loaded.init.toBoard
  have broker : Broker.Logs (¬ ·.IsOpening) resting (resting.init loaded.init.isConnected) := by
    refine Broker.logs_init Broker.admitsRest_closed.admits ?_
    intro up
    simp [down] at up
  exact link.trans broker

theorem standing_start (settings : Settings) (watched : Bool) (radio : ρ) (client : β) (board : Board σ) :
    (start settings watched radio client board).broker.Standing settings.broker
      ⟨settings.broker.topicRoot, settings.device.id⟩ :=
  (Broker.standing_load settings.broker settings.device.id watched client _).init _

end Station

/-! ## Companions -/

namespace Relay.Companion

open Station

variable {ω ρ β σ : Type}

/-- A report is a line on the wire, if it fits into a frame. -/
theorem report_cases [Wire ω] [Radio ρ] (c : Companion ω ρ β σ) :
    c.report.linkState = c.linkState ∧ c.report.broker.status = c.broker.status ∧
      Grows (¬ ·.IsOpening) c.trace c.report.trace := by
  unfold report
  dsimp only
  split
  · exact ⟨rfl, rfl, grows_snoc id _⟩
  · exact ⟨rfl, rfl, .refl _⟩

theorem guarded_report [Wire ω] [Radio ρ] (c : Companion ω ρ β σ) : Guarded c.toStation c.report.toStation := by
  obtain ⟨link, -, told⟩ := report_cases c
  exact ⟨link, told.mono fun _ other opening => absurd opening other⟩

theorem grows_publishData [Client β] [Storage σ] (data : Json) (c : Companion ω ρ β σ) :
    Grows (¬ ·.IsOpening) c.trace (c.publishData data).2.trace := by
  exact Broker.logs_perform Broker.admitsRest_closed
    (.publish (itemId data) (c.broker.topics.item (itemId data)) (Text.utf8 data.render)) nofun

section Wire

variable [Wire ω] [Radio ρ] [Client β] [Storage σ]

theorem grows_handle (line : String) (c : Companion ω ρ β σ) :
    Grows (¬ ·.IsOpening) c.trace (c.handle line).trace := by
  unfold handle
  split
  · exact grows_publishData _ c
  · exact (report_cases c).2.2
  · exact .refl _

theorem grows_handleAll (lines : List String) (c : Companion ω ρ β σ) :
    Grows (¬ ·.IsOpening) c.trace (LineEnd.handleAll lines c).trace := by
  induction lines generalizing c with
  | nil => exact .refl _
  | cons line lines ih => exact (grows_handle line c).trans (ih _)

/-- Lines from the main unit never request a session. -/
theorem grows_pump (budget : Nat) (c : Companion ω ρ β σ) :
    Grows (¬ ·.IsOpening) c.trace (LineEnd.pump budget c).trace := by
  refine LineEnd.pump_induction (P := fun d : Companion ω ρ β σ => Grows (¬ ·.IsOpening) c.trace d.trace) ?_
    budget (.refl _)
  intro d h
  rw [LineEnd.take_eq]
  exact h.trans (grows_handleAll _ (LineEnd.readChunk d).2)

end Wire

/-! ## The console -/

theorem linkFirst_setNetwork [Radio ρ] [Storage σ] (ssid pass : String) (c : Companion ω ρ β σ) :
    LinkFirst c.toStation (c.setNetwork ssid pass).2.toStation := by
  have asked := grows_askLink (.setCredentials ssid pass) c.toStation
  apply linkFirst_of_grows
  unfold setNetwork
  split
  · next h =>
    rw [toStation_eq_of_askStation h]
    exact asked
  · next h =>
    show Grows _ c.trace ((toStation _).onLink fun l => l.disable.enable).trace
    rw [toStation_eq_of_askStation h]
    exact (asked.trans (grows_askLink .disable _)).trans (grows_askLink .enable _)

/-- The link is asked before the endpoint is set. It is not touched in between. -/
theorem linkFirst_setBroker [Client β] [Storage σ] (host : String) (port : UInt16) (user pass : Option String)
    (c : Companion ω ρ β σ) :
    LinkFirst c.toStation (c.setBroker host port user pass).2.toStation := by
  have asked := guarded_askBroker (.setEndpoint host port user pass) c.toStation nofun
  apply Guarded.linkFirst
  unfold setBroker
  dsimp only
  split
  · next h =>
    rw [toStation_eq_of_askStation h]
    exact asked
  · next h =>
    show Guarded c.toStation ((toStation _).onBroker fun b => b.disable.enable c.link.isConnected)
    rw [toStation_eq_of_askStation h]
    exact (asked.trans (guarded_askBroker .disable _ nofun)).trans (guarded_enable _)

section Console

variable [Radio ρ] [Client β] [Storage σ]

theorem linkFirst_reset (c : Companion ω ρ β σ) : LinkFirst c.toStation c.reset.2.toStation := by
  have unset : Grows (¬ ·.IsOpening) c.trace (c.toStation.askBroker Broker.clearEndpoint).2.trace :=
    Broker.logs_clearEndpoint Broker.admitsRest_closed.admits c.broker
  exact linkFirst_of_grows (unset.trans (grows_askLink .clearCredentials _))

theorem linkFirst_console (line : String) (c : Companion ω ρ β σ) :
    LinkFirst c.toStation (c.console line).2.toStation := by
  have unchanged : LinkFirst c.toStation c.toStation := linkFirst_of_grows (.refl _)
  unfold console
  split
  · exact unchanged
  · exact unchanged
  · exact unchanged
  · exact unchanged
  · exact linkFirst_reset c
  · exact linkFirst_setNetwork _ _ c
  · exact linkFirst_setBroker _ _ _ _ c

theorem standing_console {settings : Settings.Broker} {topics : Topics} (line : String) {c : Companion ω ρ β σ}
    (h : c.broker.Standing settings topics) : (c.console line).2.broker.Standing settings topics := by
  unfold console
  split
  · exact h
  · exact h
  · exact h
  · exact h
  · have cleared := h.clearEndpoint
    exact ⟨cleared.settings, cleared.topics, cleared.active⟩
  · exact (operated_setNetwork _ _ c).standing h
  · exact (operated_setBroker _ _ _ _ c).standing h

end Console

/-! ## Runs -/

section Wire

variable [Wire ω] [Radio ρ] [Client β]

/-- Is it the companion itself that says whether the link is up? -/
def Input.isOwn : Input → Bool
  | station op => op.isOwn
  | _ => true

/-- Does it tick the managers? -/
def Input.isTick : Input → Bool
  | tick | station .tick => true
  | _ => false

/-- The companion at the moment when its link has been served. Only a tick serves it. -/
def Input.served (input : Input) (c : Companion ω ρ β σ) : Companion ω ρ β σ :=
  match input with
  | tick => (LineEnd.pump pumpBudget c).onStation (·.onLink Link.tick)
  | station op => c.onStation op.served
  | _ => c

theorem Input.grows_served [Storage σ] (input : Input) (c : Companion ω ρ β σ) :
    Grows (¬ ·.IsOpening) c.trace (input.served c).trace := by
  cases input with
  | tick => exact (grows_pump pumpBudget c).trans (grows_askLink .tick _)
  | station op => exact Station.grows_served op c.toStation
  | console _ | line _ | publish _ => exact .refl _

/-- Once the managers have been ticked, only a report can follow. -/
theorem tick_cases (c : Companion ω ρ β σ) :
    let ticked := (LineEnd.pump pumpBudget c).onStation Station.tick
    c.tick = ticked ∨ c.tick = ticked.report := by
  unfold tick
  dsimp only
  split
  · exact .inl rfl
  · exact .inr rfl

variable [Storage σ]

theorem linkFirst_tick (c : Companion ω ρ β σ) :
    LinkFirst ((LineEnd.pump pumpBudget c).onStation (·.onLink Link.tick)).toStation c.tick.toStation := by
  have ticked := guarded_tick (LineEnd.pump pumpBudget c).toStation
  obtain h | h := tick_cases c
  · rw [h]
    exact ticked.linkFirst
  · rw [h]
    exact (ticked.trans (guarded_report ((LineEnd.pump pumpBudget c).onStation Station.tick))).linkFirst

theorem Input.linkFirst (input : Input) (own : input.isOwn = true) (c : Companion ω ρ β σ) :
    LinkFirst (input.served c).toStation (input.ask c).2.toStation := by
  cases input with
  | tick =>
    simp only [Input.ask, Input.served]
    exact linkFirst_tick c
  | console text => exact linkFirst_console text c
  | line text =>
    simp only [Input.ask, Input.served]
    exact linkFirst_of_grows (grows_handle text c)
  | publish data =>
    simp only [Input.ask, Input.served]
    exact linkFirst_of_grows (grows_publishData data c)
  | station op =>
    have performed := linkFirst_perform op own c.toStation
    rw [← ask_eq_perform] at performed
    exact performed

variable {settings : Settings.Broker} {topics : Topics} {c : Companion ω ρ β σ}

theorem Input.standing (input : Input) (h : c.broker.Standing settings topics) :
    (input.ask c).2.broker.Standing settings topics := by
  cases input with
  | tick =>
    simp only [Input.ask]
    exact (operated_tick c).standing h
  | console text => exact standing_console text h
  | line text => exact (operated_handle text c).standing h
  | publish data => exact h.perform (.publish _ _ _)
  | station op =>
    have performed := (operated_perform op c.toStation).standing h
    rw [← ask_eq_perform] at performed
    exact performed

theorem link_of_isActive_tick (h : c.broker.Standing settings topics)
    (active : c.tick.broker.status.isActive = true) : c.tick.link.status = .connected := by
  have pumped := (operated_pump pumpBudget c).standing h
  obtain same | reported := tick_cases c
  · rw [same] at active ⊢
    exact Station.link_of_isActive_tick pumped active
  · rw [reported] at active ⊢
    let ticked := (LineEnd.pump pumpBudget c).onStation Station.tick
    obtain ⟨-, shown, -⟩ := report_cases ticked
    rw [shown] at active
    rw [(guarded_report ticked).status]
    exact Station.link_of_isActive_tick pumped active

theorem Input.link_of_isActive (input : Input) (tick : input.isTick = true) (h : c.broker.Standing settings topics)
    (active : (input.ask c).2.broker.status.isActive = true) : (input.ask c).2.link.status = .connected := by
  match input, tick with
  | .tick, _ =>
    simp only [Input.ask] at active ⊢
    exact Companion.link_of_isActive_tick h active
  | .station .tick, _ => exact Station.link_of_isActive_tick h active

/-- The broker never runs ahead of the link: a station starts without a request for a session, and in every step of
a run a session is requested only while the link stands; after a tick a session is being set up or stands only if
the link stands. -/
theorem broker_behind_link (settings : Settings) (watched : Bool) (wire : ω) (radio : ρ) (client : β)
    (board : Board σ) (past : List (Step ω ρ β σ)) (step : Step ω ρ β σ) (own : step.input.isOwn = true) :
    let station := Station.start settings watched radio client board
    let c := (after Step.ask past (start settings wire station)).meet step
    let served := step.input.served c
    let c' := (step.input.ask c).2
    Grows (¬ ·.IsOpening) board.trace station.trace ∧ Grows (¬ ·.IsOpening) c.trace served.trace ∧
      LinkFirst served.toStation c'.toStation ∧
      (step.input.isTick = true → c'.broker.status.isActive = true → c'.link.status = .connected) := by
  intro station c served c'
  have standing : (after Step.ask past (start settings wire station)).broker.Standing settings.broker
      ⟨settings.broker.topicRoot, settings.device.id⟩ := by
    refine after_induction (P := fun c : Companion ω ρ β σ => c.broker.Standing _ _) ?_ past
      (standing_start settings watched radio client board)
    intro step c h
    have met : (c.meet step).broker.Standing settings.broker ⟨settings.broker.topicRoot, settings.device.id⟩ :=
      ⟨h.settings, h.topics, h.active⟩
    exact step.input.standing met
  have met : c.broker.Standing settings.broker ⟨settings.broker.topicRoot, settings.device.id⟩ :=
    ⟨standing.settings, standing.topics, standing.active⟩
  refine ⟨grows_start settings watched radio client board, step.input.grows_served c,
    step.input.linkFirst own c, ?_⟩
  intro tick active
  exact step.input.link_of_isActive tick met active

end Wire

namespace Opening

def board (now : UInt32) : Board Store.Flash := { now, store := {} }

/-- Link and broker are set up over the console, while the link is down. -/
def past : List (Step Bench.Wire Bench.Radio Bench.Client Store.Flash) :=
  [ { wire := {}, radio := {}, client := {}, board := board 0, input := .console "wifi ssid=home pass=secret01" },
    { wire := {}, radio := {}, client := {}, board := board 0, input := .console "mqtt broker=broker.local" } ]

/-- A tick that finds the link up. -/
def step : Step Bench.Wire Bench.Radio Bench.Client Store.Flash :=
  { wire := {}, radio := { connected := true }, client := {}, board := board 500, input := .tick }

def found : Companion Bench.Wire Bench.Radio Bench.Client Store.Flash :=
  (after Step.ask past (start {} {} (Station.start {} false {} {} (board 0)))).meet step

def served : Companion Bench.Wire Bench.Radio Bench.Client Store.Flash := step.input.served found

def ticked : Companion Bench.Wire Bench.Radio Bench.Client Store.Flash := (step.input.ask found).2

theorem session_behind_link :
    step.input.isOwn = true ∧ found.link.status = .connecting ∧ served.link.status = .connected ∧
      (∃ e ∈ ticked.trace, e.IsOpening) ∧ LinkFirst served.toStation ticked.toStation ∧
      ticked.broker.status = .connecting ∧ ticked.link.status = .connected := by
  obtain ⟨-, -, order, up⟩ := broker_behind_link (ω := Bench.Wire) (ρ := Bench.Radio) (β := Bench.Client)
    {} false {} {} {} (board 0) past step rfl
  have requested : ticked.broker.status = .connecting := by decide +kernel
  have active : ticked.broker.status.isActive = true := by
    rw [requested]
    rfl
  exact ⟨rfl, by decide +kernel, by decide +kernel, by decide +kernel, order, requested, up rfl active⟩

end Opening

end Relay.Companion

end Telemetry
