import Telemetry.Proofs.Device
import Telemetry.Proofs.Shift
import Telemetry.Proofs.Station.Simulation

/-!
# Wraparound does not matter

Nothing that can be seen of a device depends on where its clock stands: a run can be replayed with all readings of
the clock shifted, and whatever is seen of it is the same. As shifting is modulo `2 ^ 32`, it makes no difference
when the clock wraps.
-/

namespace Telemetry

/-! ## Stations -/

namespace Station

variable {ρ β σ : Type}

def Step.shift (d : UInt32) (step : Step ρ β σ) : Step ρ β σ := { step with board := step.board.shift d }

/-- What can be seen of a station: all but the clock and the stamps. -/
def seen (s : Station ρ β σ) : Station ρ β σ :=
  { s with
    toClock := { now := 0 }
    linkState := { s.linkState with startedAt := 0, backoff := { s.linkState.backoff with last := none } }
    brokerState := { s.brokerState with startedAt := 0, backoff := { s.brokerState.backoff with last := none } } }

/-- The second station is the first one shifted. -/
def Shifted (d : UInt32) : Station ρ β σ → Station ρ β σ → Prop := Matched (Link.Shifted d) (Broker.Shifted d)

/-- The station with its clock and its backoffs shifted, and with other stamps of the last starts. -/
def displace (d stamp stamp' : UInt32) (s : Station ρ β σ) : Station ρ β σ :=
  { toBoard := s.toBoard.shift d
    linkState := (s.link.displace d stamp).toState
    brokerState := (s.broker.displace d stamp').toState }

variable {d : UInt32} {s s' : Station ρ β σ}

theorem shifted_iff : Shifted d s s' ↔
    ∃ stamp stamp', s' = s.displace d stamp stamp' ∧
      (s.link.status = .connecting → stamp = s.link.startedAt + d) ∧
      (s.broker.status = .connecting → stamp' = s.broker.startedAt + d) := by
  constructor
  · rintro ⟨⟨stamp, link, started⟩, ⟨stamp', broker, started'⟩⟩
    refine ⟨stamp, stamp', ?_, started, started'⟩
    obtain ⟨board, linkState, brokerState⟩ := s'
    cases link
    cases broker
    rfl
  · rintro ⟨stamp, stamp', rfl, started, started'⟩
    exact ⟨⟨stamp, rfl, started⟩, ⟨stamp', rfl, started'⟩⟩

theorem Shifted.seen (h : Shifted d s s') : s'.seen = s.seen := by
  obtain ⟨stamp, stamp', rfl, -, -⟩ := shifted_iff.1 h
  rfl

/-- The hardware and the board have become anything, at a shifted time. -/
theorem Shifted.surround (h : Shifted d s s') (radio : ρ) (client : β) (board : Board σ) :
    Shifted d (Relay.Pair.surround radio client board s)
      (Relay.Pair.surround radio client (board.shift d) s') := by
  obtain ⟨stamp, stamp', rfl, started, started'⟩ := shifted_iff.1 h
  exact shifted_iff.2 ⟨stamp, stamp', rfl, started, started'⟩

theorem Shifted.record (h : Shifted d s s') (e : Event) :
    Shifted d { s with trace := s.trace ++ [e] } { s' with trace := s'.trace ++ [e] } := by
  obtain ⟨stamp, stamp', rfl, started, started'⟩ := shifted_iff.1 h
  exact shifted_iff.2 ⟨stamp, stamp', rfl, started, started'⟩

theorem Shifted.clear [Storage σ] (h : Shifted d s s') :
    Alike (Shifted d) ((Storage.clear s.store).1, { s with store := (Storage.clear s.store).2 })
      ((Storage.clear s'.store).1, { s' with store := (Storage.clear s'.store).2 }) := by
  obtain ⟨stamp, stamp', rfl, started, started'⟩ := shifted_iff.1 h
  exact ⟨rfl, shifted_iff.2 ⟨stamp, stamp', rfl, started, started'⟩⟩

variable [Radio ρ] [Client β] [Storage σ]

theorem shifted_simulation (d : UInt32) :
    Simulation (Link.Shifted (ρ := ρ) (σ := σ) d) (Broker.Shifted (β := β) d)
      (fun board board' => board' = board.shift d) where
  link := Link.shifted_simulation d
  broker := Broker.shifted_simulation d
  linkBoard := by
    rintro l _ ⟨stamp, rfl, -⟩
    rfl
  brokerBoard := by
    rintro b _ ⟨stamp, rfl, -⟩
    rfl
  linkOn := by
    rintro l l' board _ h rfl
    exact h.onBoard board
  brokerOn := by
    rintro b b' board _ h rfl
    exact h.onBoard board
  linkReport := by
    rintro l _ ⟨stamp, rfl, -⟩
    rfl
  brokerReport := by
    rintro b _ ⟨stamp, rfl, -⟩
    rfl

/-- A station that is started at a shifted time is the station shifted. The stamps of the last starts are those
that a manager begins with, and no connection is awaited. -/
theorem shifted_start (settings : Settings) (watched : Bool) (radio : ρ) (client : β) (board : Board σ)
    (d : UInt32) :
    Shifted d (start settings watched radio client board) (start settings watched radio client (board.shift d)) := by
  refine (shifted_simulation d).start settings watched ⟨0, rfl, nofun⟩ ?_
  rintro board _ rfl
  exact ⟨0, rfl, nofun⟩

theorem Shifted.ask (h : Shifted d s s') (step : Step ρ β σ) :
    Alike (Shifted d) (step.ask s) ((step.shift d).ask s') :=
  (shifted_simulation d).ask step.op (h.surround step.radio step.client step.board)

end Station

namespace Relay

/-! ## Reading from the wire -/

namespace LineEnd

variable {ω S : Type} [Wire ω] [LineEnd ω S]

/-- What an endpoint does with a line, a chunk or its assembler keeps the relation. -/
structure Simulation (R : S → S → Prop) : Prop where
  readChunk : ∀ {s s'}, R s s' → Alike R (LineEnd.readChunk s) (LineEnd.readChunk s')
  assembler : ∀ {s s'}, R s s' → LineEnd.assembler s' = LineEnd.assembler s
  withAssembler : ∀ {s s'}, R s s' → ∀ a, R (LineEnd.withAssembler a s) (LineEnd.withAssembler a s')
  handle : ∀ {s s'}, R s s' → ∀ line, R (LineEnd.handle line s) (LineEnd.handle line s')

variable {R : S → S → Prop} {s s' : S}

theorem Simulation.take (sim : Simulation R) (bytes : List UInt8) (h : R s s') :
    R (LineEnd.take bytes s) (LineEnd.take bytes s') := by
  have handled : ∀ (lines : List String) {s s' : S}, R s s' →
      R (lines.foldl (fun s line => LineEnd.handle line s) s)
        (lines.foldl (fun s line => LineEnd.handle line s) s') := by
    intro lines
    induction lines with
    | nil => exact fun h => h
    | cons line lines ih => exact fun h => ih (sim.handle h line)
  unfold LineEnd.take
  rw [sim.assembler h]
  exact handled _ (sim.withAssembler h _)

/-- Both endpoints read the same chunks, so they stop reading at the same time. -/
theorem Simulation.pump (sim : Simulation R) (budget : Nat) (h : R s s') :
    R (LineEnd.pump budget s) (LineEnd.pump budget s') := by
  induction budget using Nat.strongRecOn generalizing s s' with
  | ind budget ih =>
    rw [LineEnd.pump, LineEnd.pump]
    split
    · obtain ⟨same, read⟩ := sim.readChunk h
      cases hr : LineEnd.readChunk s with
      | mk bytes t =>
        cases hr' : LineEnd.readChunk s' with
        | mk bytes' t' =>
          rw [hr, hr'] at same read
          obtain rfl : bytes' = bytes := same
          cases bytes' with
          | nil => exact read
          | cons byte rest => exact ih _ (by omega) (sim.take _ read)
    · exact h

end LineEnd

/-! ## Companions -/

namespace Companion

variable {ω ρ β σ : Type}

def Step.shift (d : UInt32) (step : Step ω ρ β σ) : Step ω ρ β σ := { step with board := step.board.shift d }

/-- What can be seen of a companion: all but the clock and the stamps. -/
def seen (c : Companion ω ρ β σ) : Companion ω ρ β σ := c.onStation Station.seen

/-- The second companion is the first one, with its station shifted. -/
def Shifted (d : UInt32) (c c' : Companion ω ρ β σ) : Prop :=
  ∃ s, c' = { c with toStation := s } ∧ Station.Shifted d c.toStation s

variable {d : UInt32} {c c' : Companion ω ρ β σ}

theorem Shifted.station (h : Shifted d c c') : Station.Shifted d c.toStation c'.toStation := by
  obtain ⟨s, rfl, station⟩ := h
  exact station

theorem Shifted.seen (h : Shifted d c c') : c'.seen = c.seen := by
  obtain ⟨s, rfl, station⟩ := h
  exact congrArg (fun s => { c with toStation := s }) station.seen

theorem Shifted.onStation {f : Station ρ β σ → Station ρ β σ} (h : Shifted d c c')
    (station : Station.Shifted d (f c.toStation) (f c'.toStation)) :
    Shifted d (c.onStation f) (c'.onStation f) := by
  obtain ⟨s, rfl, -⟩ := h
  exact ⟨f s, rfl, station⟩

theorem Shifted.askStation {α : Type} {f f' : Station ρ β σ → α × Station ρ β σ} (h : Shifted d c c')
    (alike : Alike (Station.Shifted d) (f c.toStation) (f' c'.toStation)) :
    Alike (Shifted d) (c.askStation f) (c'.askStation f') := by
  obtain ⟨s, rfl, -⟩ := h
  exact ⟨alike.answer, (f' s).2, rfl, alike.state⟩

theorem Shifted.meet (h : Shifted d c c') (step : Step ω ρ β σ) :
    Shifted d (c.meet step) (c'.meet (step.shift d)) := by
  obtain ⟨s, rfl, station⟩ := h
  exact ⟨_, rfl, station.surround step.radio step.client step.board⟩

theorem pair_seen (c : Companion ω ρ β σ) : c.seen.pair = c.pair := rfl

theorem Shifted.pair (h : Shifted d c c') : c'.pair = c.pair := by
  rw [← pair_seen, h.seen, pair_seen]

theorem Shifted.write [Wire ω] (h : Shifted d c c') (line : String) :
    Shifted d (c.write line) (c'.write line) := by
  obtain ⟨s, rfl, station⟩ := h
  exact ⟨_, rfl, station.record _⟩

section Radio

variable [Radio ρ]

theorem currentReport_seen (c : Companion ω ρ β σ) : c.seen.currentReport = c.currentReport := rfl

theorem statusLines_seen (c : Companion ω ρ β σ) : c.seen.statusLines = c.statusLines := rfl

theorem Shifted.publishData [Client β] [Storage σ] (h : Shifted d c c') (data : Json) :
    Alike (Shifted d) (c.publishData data) (c'.publishData data) := by
  have sim := Station.shifted_simulation (ρ := ρ) (β := β) (σ := σ) d
  have topics := (sim.broker.looks h.station.broker).topics
  unfold Companion.publishData
  apply h.askStation
  rw [topics]
  exact sim.askBroker h.station (sim.broker.publish _ _ _ h.station.broker)

section Wire

variable [Wire ω]

theorem Shifted.report (h : Shifted d c c') : Shifted d c.report c'.report := by
  have same : c'.currentReport = c.currentReport := by
    rw [← currentReport_seen, h.seen, currentReport_seen]
  obtain ⟨s, rfl, station⟩ := h
  have reported : Shifted d { c with reported := (c.currentReport.link, c.currentReport.broker) }
      { c with toStation := s, reported := (c.currentReport.link, c.currentReport.broker) } := ⟨s, rfl, station⟩
  unfold Companion.report
  dsimp only
  rw [same]
  split
  · exact reported.write _
  · exact reported

variable [Client β] [Storage σ]

theorem Shifted.handle (h : Shifted d c c') (line : String) : Shifted d (c.handle line) (c'.handle line) := by
  unfold Companion.handle
  split
  · exact (h.publishData _).state
  · exact h.report
  · exact h

/-- Two companions, one of them shifted, read the same from their wires. -/
theorem shifted_reading (d : UInt32) :
    LineEnd.Simulation (Shifted (ω := ω) (ρ := ρ) (β := β) (σ := σ) d) where
  readChunk := by
    rintro c _ ⟨s, rfl, station⟩
    exact ⟨rfl, s, rfl, station⟩
  assembler := by
    rintro c _ ⟨s, rfl, -⟩
    rfl
  withAssembler := by
    rintro c _ ⟨s, rfl, station⟩ a
    exact ⟨s, rfl, station⟩
  handle h line := h.handle line

theorem Shifted.tick (h : Shifted d c c') : Shifted d c.tick c'.tick := by
  have sim := Station.shifted_simulation (ρ := ρ) (β := β) (σ := σ) d
  have pumped := (shifted_reading d).pump pumpBudget h
  have served := pumped.onStation (sim.tick pumped.station)
  have reported : ∀ {c c' : Companion ω ρ β σ}, Shifted d c c' → c'.reported = c.reported := by
    rintro c _ ⟨s, rfl, -⟩
    rfl
  unfold Companion.tick
  dsimp only
  rw [served.pair, reported served]
  split
  · exact served
  · exact served.report

end Wire

/-! ### The console -/

variable [Client β] [Storage σ]

theorem Shifted.reset (h : Shifted d c c') : Alike (Shifted d) c.reset c'.reset := by
  have sim := Station.shifted_simulation (ρ := ρ) (β := β) (σ := σ) d
  have broker := h.askStation (sim.askBroker h.station (sim.broker.clearEndpoint h.station.broker))
  have link := broker.state.askStation
    (sim.askLink broker.state.station (sim.link.clearCredentials broker.state.station.link))
  have erased := link.state.station.clear
  refine ⟨?_, ?_⟩
  · unfold Companion.reset
    dsimp only
    rw [broker.answer, link.answer]
    exact congrArg (fun e => _ ++ errorLines Store.Error.message e ++ ["All settings cleared"]) erased.answer
  · obtain ⟨s, same, -⟩ := link.state
    unfold Companion.reset
    dsimp only
    rw [same] at erased ⊢
    exact ⟨_, rfl, erased.state⟩

theorem Shifted.setNetwork (h : Shifted d c c') (ssid pass : String) :
    Alike (Shifted d) (c.setNetwork ssid pass) (c'.setNetwork ssid pass) := by
  have sim := Station.shifted_simulation (ρ := ρ) (β := β) (σ := σ) d
  have asked := h.askStation (sim.askLink h.station (sim.link.setCredentials h.station.link ssid pass))
  unfold Companion.setNetwork
  obtain ⟨e, k, k', refused, refused', state⟩ | ⟨k, k', set, set', state⟩ := asked.cases
  · rw [refused, refused']
    exact ⟨rfl, state⟩
  · rw [set, set']
    have renewed := sim.link.enable (sim.link.disable state.station.link)
    exact ⟨rfl, state.onStation (sim.withLink state.station renewed)⟩

theorem Shifted.setBroker (h : Shifted d c c') (host : String) (port : UInt16) (user pass : Option String) :
    Alike (Shifted d) (c.setBroker host port user pass) (c'.setBroker host port user pass) := by
  have sim := Station.shifted_simulation (ρ := ρ) (β := β) (σ := σ) d
  have asked := h.askStation
    (sim.askBroker h.station (sim.broker.setEndpoint h.station.broker host port user pass))
  unfold Companion.setBroker
  dsimp only
  rw [sim.isConnected_eq h.station]
  obtain ⟨e, k, k', refused, refused', state⟩ | ⟨k, k', set, set', state⟩ := asked.cases
  · rw [refused, refused']
    exact ⟨rfl, state⟩
  · rw [set, set']
    have renewed := sim.broker.enable c.link.isConnected (sim.broker.disable state.station.broker)
    exact ⟨rfl, state.onStation (sim.withBroker state.station renewed)⟩

theorem Shifted.console (h : Shifted d c c') (line : String) :
    Alike (Shifted d) (c.console line) (c'.console line) := by
  have shown : c'.statusLines = c.statusLines := by
    rw [← statusLines_seen, h.seen, statusLines_seen]
  unfold Companion.console
  split
  · exact ⟨rfl, h⟩
  · exact ⟨rfl, h⟩
  · exact ⟨rfl, h⟩
  · exact ⟨shown, h⟩
  · exact h.reset
  · exact h.setNetwork _ _
  · exact h.setBroker _ _ _ _

theorem Shifted.input [Wire ω] (h : Shifted d c c') (input : Input) :
    Alike (Shifted d) (input.ask c) (input.ask c') := by
  have done : ∀ {k k' : Companion ω ρ β σ}, Shifted d k k' →
      Alike (Shifted d) (Answer.done, k) (Answer.done, k') := fun related => ⟨rfl, related⟩
  cases input with
  | tick => exact done h.tick
  | console text => exact (h.console text).map Answer.printed
  | line text => exact done (h.handle text)
  | publish data => exact (h.publishData data).map Answer.delivery
  | station op =>
    have sim := Station.shifted_simulation (ρ := ρ) (β := β) (σ := σ) d
    exact (h.askStation (sim.ask op h.station)).map Answer.station

theorem Shifted.ask [Wire ω] (h : Shifted d c c') (step : Step ω ρ β σ) :
    Alike (Shifted d) (step.ask c) ((step.shift d).ask c') :=
  (h.meet step).input step.input

end Radio

theorem shifted_start [Radio ρ] [Client β] [Storage σ] (settings : Settings) (wire : ω) (watched : Bool)
    (radio : ρ) (client : β) (board : Board σ) (d : UInt32) :
    Shifted d (start settings wire (Station.start settings watched radio client board))
      (start settings wire (Station.start settings watched radio client (board.shift d))) :=
  ⟨_, rfl, Station.shifted_start settings watched radio client board d⟩

end Companion

/-! ## Main units -/

namespace MainUnit

variable {ω : Type}

def Step.shift (d : UInt32) (step : Step ω) : Step ω := { step with journal := step.journal.shift d }

/-- What can be seen of a main unit: all but the clock and the stamp. -/
def seen (u : MainUnit ω) : MainUnit ω := { u with toClock := { now := 0 }, lastQuery := none }

/-- The main unit with its clock and the stamp of its last query shifted. -/
def shift (d : UInt32) (u : MainUnit ω) : MainUnit ω :=
  { u with toJournal := u.toJournal.shift d, lastQuery := u.lastQuery.map (· + d) }

variable (d : UInt32) (u : MainUnit ω)

theorem seen_shift : (u.shift d).seen = u.seen := rfl

theorem isQueryDue_shift : (u.shift d).isQueryDue = u.isQueryDue := by
  unfold isQueryDue shift Journal.shift Clock.shift
  cases u.lastQuery <;> simp

theorem look_shift : (u.shift d).look = u.look.shift d :=
  congrArg (fun clock => { u.shift d with toClock := clock }) (u.toClock.look_shift d)

theorem handle_shift (line : String) : (u.shift d).handle line = (u.handle line).shift d := by
  unfold handle
  split <;> rfl

variable [Wire ω]

theorem query_shift : (u.shift d).query = u.query.shift d := by
  unfold query
  rw [look_shift]
  dsimp only [shift]
  split <;> rfl

/-- Two main units, one of them shifted, read the same from their wires. -/
theorem shift_reading : LineEnd.Simulation (fun u u' : MainUnit ω => u' = u.shift d) where
  readChunk := by
    rintro u _ rfl
    exact ⟨rfl, rfl⟩
  assembler := by
    rintro u _ rfl
    rfl
  withAssembler := by
    rintro u _ rfl a
    rfl
  handle := by
    rintro u _ rfl line
    exact handle_shift d u line

theorem tick_shift : (u.shift d).tick = u.tick.shift d := by
  have pumped := (shift_reading d).pump pumpBudget (s := u) rfl
  unfold tick
  dsimp only
  rw [pumped, look_shift, isQueryDue_shift]
  split
  · exact query_shift d _
  · rfl

theorem publishRecord_shift (r : Record) :
    (u.shift d).publishRecord r = ((u.publishRecord r).1, (u.publishRecord r).2.shift d) := by
  have line : (u.shift d).publishLine r = u.publishLine r := rfl
  unfold publishRecord
  rw [line]
  split <;> rfl

theorem publish_shift (r : Record) :
    (u.shift d).publish r = ((u.publish r).1, (u.publish r).2.shift d) := by
  unfold publish
  rw [publishRecord_shift]
  cases u.publishRecord r with
  | mk outcome v => cases outcome <;> rfl

theorem input_shift (input : Input) : input.ask (u.shift d) = ((input.ask u).1, (input.ask u).2.shift d) := by
  cases input with
  | init => simp only [Input.ask, init, query_shift]
  | tick => simp only [Input.ask, tick_shift]
  | line text => simp only [Input.ask, handle_shift]
  | publish record => simp only [Input.ask, publish_shift]
  | publishRecord record => simp only [Input.ask, publishRecord_shift]

theorem ask_shift (step : Step ω) :
    (step.shift d).ask (u.shift d) = ((step.ask u).1, (step.ask u).2.shift d) :=
  input_shift d (u.meet step) step.input

end MainUnit

/-- Whatever is seen of a run is seen again when the run is replayed with every reading of the clock shifted: of a
station, of a companion with its station, and of a main unit. Seen are the answers, and after every step the events
so far, the hardware, the store and all that the managers hold but the times of their last starts: so their
statuses, and the counts and intervals of their backoffs. -/
theorem observed_shifted {ω ρ β σ : Type} [Wire ω] [Radio ρ] [Client β] [Storage σ] (d : UInt32)
    (settings : Settings) (watched : Bool) (wire : ω) (radio : ρ) (client : β) (board : Board σ) :
    (∀ steps : List (Station.Step ρ β σ),
      observed Station.Step.ask Station.seen (steps.map (.shift d))
          (Station.start settings watched radio client (board.shift d)) =
        observed Station.Step.ask Station.seen steps (Station.start settings watched radio client board)) ∧
    (∀ steps : List (Companion.Step ω ρ β σ),
      observed Companion.Step.ask Companion.seen (steps.map (.shift d))
          (Companion.start settings wire (Station.start settings watched radio client (board.shift d))) =
        observed Companion.Step.ask Companion.seen steps
          (Companion.start settings wire (Station.start settings watched radio client board))) ∧
    ∀ steps : List (MainUnit.Step ω),
      observed MainUnit.Step.ask MainUnit.seen (steps.map (.shift d))
          (MainUnit.start settings wire (board.toJournal.shift d)) =
        observed MainUnit.Step.ask MainUnit.seen steps (MainUnit.start settings wire board.toJournal) := by
  refine ⟨fun steps => ?_, fun steps => ?_, fun steps => ?_⟩
  · have started := Station.shifted_start settings watched radio client board d
    exact observed_map (fun _ _ h => h.seen) (fun step _ _ h => h.ask step) steps started
  · have started := Companion.shifted_start settings wire watched radio client board d
    exact observed_map (fun _ _ h => h.seen) (fun step _ _ h => h.ask step) steps started
  · have seen : ∀ u u' : MainUnit ω, u' = u.shift d → u'.seen = u.seen := by
      rintro u _ rfl
      exact MainUnit.seen_shift d u
    have step : ∀ (step : MainUnit.Step ω) (u u' : MainUnit ω), u' = u.shift d →
        Alike (fun u u' => u' = u.shift d) (step.ask u) ((step.shift d).ask u') := by
      rintro step u _ rfl
      rw [MainUnit.ask_shift]
      exact ⟨rfl, rfl⟩
    exact observed_map seen step steps rfl

end Relay

end Telemetry
