import Telemetry.Proofs.Relay.Agreement

/-!
# Reports that the wire refuses

A companion holds a report to be made once it has handed the line to its wire, whether or not the wire
accepts. At the end of a tick the last report that was handed over says what is the case. Where the wire
refused it and it says something else than the last one accepted, the main unit is left with the old one:
ticks in which nothing changes do not report again, even when the wire accepts by then.
-/

namespace Telemetry.Relay

/-- A wire that remembers the lines it was given, each with the answer. -/
structure Logged (ω : Type) where
  wire : ω
  log : List (String × Bool) := []

/-- The report that a line carries. -/
def reportOn? (line : String) : Option Report :=
  match Frame.parse line with
  | .ok (some (.report r)) => some r
  | _ => none

theorem reportOn?_line (r : Report) : reportOn? r.line = some r := by
  rw [reportOn?, Report.line, Frame.parse_report]

/-- The reports on a log. -/
def reportsOn (log : List (String × Bool)) : List Report := log.filterMap fun e => reportOn? e.1

namespace Logged

variable {ω ρ β σ : Type}

/-- The reports that the wire was given. -/
def tried (w : Logged ω) : List Report := reportsOn w.log

/-- The reports that the wire accepted. -/
def told (w : Logged ω) : List Report := reportsOn (w.log.filter (·.2))

instance [Wire ω] : Wire (Logged ω) where
  writeLine line w :=
    let r := Wire.writeLine line w.wire
    (r.1, { wire := r.2, log := w.log ++ [(line, Transport.accepted r.1)] })
  read limit w :=
    let r := Wire.read limit w.wire
    (r.1, { w with wire := r.2 })

/-! ## Runs -/

/-- What can happen to a companion. -/
inductive Act (ω ρ β σ : Type)
  | tick
  | console (line : String)
  /-- A line is handed in past the wire. -/
  | line (line : String)
  /-- Calls on the managers, which bypass the companion. -/
  | manage (calls : Station ρ β σ → Station ρ β σ)
  /-- Bytes have arrived, the wire has failed or works again, and whatever else has changed around. -/
  | surround (wire : ω) (radio : ρ) (client : β) (board : Board σ)

section Run

variable [Wire ω] [Radio ρ] [Client β] [Storage σ]

def perform (act : Act ω ρ β σ) (c : Companion (Logged ω) ρ β σ) : Companion (Logged ω) ρ β σ :=
  match act with
  | .tick => c.tick
  | .console line => (c.console line).2
  | .line line => c.handle line
  | .manage calls => c.onStation calls
  | .surround wire radio client board =>
    { c.onStation (Pair.surround radio client board) with wire := { c.wire with wire } }

def run (acts : List (Act ω ρ β σ)) (c : Companion (Logged ω) ρ β σ) :
    Companion (Logged ω) ρ β σ :=
  acts.foldl (fun c act => perform act c) c

end Run

end Logged

/-- Every report that the radio's address leads to is within the limit. -/
def ReportsFit (ρ : Type) [Radio ρ] (limit : Nat) : Prop :=
  ∀ (radio : ρ) (link broker : Bool),
    (Text.utf8 (Report.line
      { status := Companion.aliveStatus, link, broker, address := Radio.address radio })).length ≤ limit

theorem HasShortAddresses.reportsFit {ρ : Type} [Radio ρ] (h : HasShortAddresses ρ) {limit : Nat}
    (wide : Settings.minFrameBytes ≤ limit) : ReportsFit ρ limit := by
  intro radio link broker
  exact (length_line_le rfl fun address ha => h radio address ha).trans wide

theorem Companion.length_currentReport_le_of_fit {ω ρ β σ : Type} [Radio ρ] {limit : Nat}
    (wide : Settings.minFrameBytes ≤ limit) (fit : ReportsFit ρ limit) (c : Companion ω ρ β σ) :
    (Text.utf8 c.currentReport.line).length ≤ limit := by
  by_cases up : c.link.isConnected = true
  · have shown : c.link.address? = Radio.address c.link.radio := if_pos up
    have fits := fit c.link.radio c.link.isConnected c.broker.isConnected
    rwa [← shown] at fits
  · have hidden : c.link.address? = none := if_neg up
    refine (length_line_le rfl fun address h => ?_).trans wide
    cases hidden.symm.trans h

/-! ## What the wire was given -/

namespace Logged

variable {ω ρ β σ : Type} {limit : Nat} {made : List (Report × Bool)}
  {c c' : Companion (Logged ω) ρ β σ}

/-- The lines that the wire was given are these reports with these answers, and the companion holds the last
one to be made. -/
structure Records (limit : Nat) (made : List (Report × Bool)) (c : Companion (Logged ω) ρ β σ) :
    Prop where
  log : c.wire.log = made.map fun m => (m.1.line, m.2)
  reported : c.reported = lastPair (made.map (·.1))
  frameLimit : c.frameLimit = limit

theorem reportsOn_lines (made : List (Report × Bool)) :
    reportsOn (made.map fun m => (m.1.line, m.2)) = made.map (·.1) := by
  induction made with
  | nil => rfl
  | cons m made ih =>
    rw [reportsOn] at ih
    simp only [List.map_cons, reportsOn, List.filterMap_cons, reportOn?_line, ih]

theorem Records.tried (h : Records limit made c) : c.wire.tried = made.map (·.1) := by
  rw [Logged.tried, h.log, reportsOn_lines]

theorem Records.told (h : Records limit made c) : c.wire.told = (made.filter (·.2)).map (·.1) := by
  rw [Logged.told, h.log, List.filter_map]
  exact reportsOn_lines _

/-- The last accepted report says what the last report says, unless that one was refused and says something
else. -/
theorem lastPair_accepted_iff (made : List (Report × Bool)) :
    lastPair ((made.filter (·.2)).map (·.1)) = lastPair (made.map (·.1)) ↔
      ∀ r, made.getLast? = some (r, false) → r.pair = lastPair ((made.filter (·.2)).map (·.1)) := by
  induction made using List.reverseRecOn with
  | nil => simp
  | append_singleton made m =>
    obtain ⟨r, answer⟩ := m
    cases answer with
    | true => simp [List.filter_append, lastPair_append, Report.pair]
    | false =>
      simp only [List.filter_append, List.map_append, lastPair_append]
      simp [eq_comm]

/-- What leaves the log and the memory of the last report alone keeps the record. -/
theorem Records.of_same (h : Records limit made c) (log : c'.wire.log = c.wire.log)
    (reported : c'.reported = c.reported) (frameLimit : c'.frameLimit = c.frameLimit) :
    Records limit made c' :=
  ⟨log.trans h.log, reported.trans h.reported, frameLimit.trans h.frameLimit⟩

theorem Records.onStation (h : Records limit made c) (f : Station ρ β σ → Station ρ β σ) :
    Records limit made (c.onStation f) := h.of_same rfl rfl rfl

theorem Records.console [Radio ρ] [Client β] [Storage σ] (h : Records limit made c) (line : String) :
    Records limit made (c.console line).2 := by
  obtain ⟨f, changed⟩ := Companion.exists_onStation_console line c
  rw [changed]
  exact h.onStation f

section Radio

variable [Wire ω] [Radio ρ]

/-- A report is given to the wire, and the companion holds it to be made whatever the wire answers. -/
theorem Records.report (wide : Settings.minFrameBytes ≤ limit) (fit : ReportsFit ρ limit)
    (h : Records limit made c) :
    ∃ answer, Records limit (made ++ [(c.currentReport, answer)]) c.report := by
  have short := (Companion.length_currentReport_le_of_fit wide fit c).trans_eq h.frameLimit.symm
  rw [Companion.report_of_fit short]
  refine ⟨Transport.accepted (Wire.writeLine c.currentReport.line c.wire.wire).1, ?_, ?_, h.frameLimit⟩
  · rw [List.map_append, ← h.log]
    rfl
  · rw [List.map_append, lastPair_append]
    rfl

variable [Client β]

theorem Records.handle (wide : Settings.minFrameBytes ≤ limit) (fit : ReportsFit ρ limit)
    (line : String) (h : Records limit made c) : ∃ made, Records limit made (c.handle line) := by
  unfold Companion.handle
  split
  · exact ⟨made, h.of_same rfl rfl rfl⟩
  · obtain ⟨answer, reported⟩ := h.report wide fit
    exact ⟨_, reported⟩
  · exact ⟨made, h⟩

theorem Records.handleAll (wide : Settings.minFrameBytes ≤ limit) (fit : ReportsFit ρ limit)
    (lines : List String) (h : Records limit made c) :
    ∃ made, Records limit made (LineEnd.handleAll lines c) := by
  induction lines generalizing c made with
  | nil => exact ⟨made, h⟩
  | cons line lines ih =>
    obtain ⟨made', handled⟩ := h.handle wide fit line
    exact ih handled

theorem Records.pump (wide : Settings.minFrameBytes ≤ limit) (fit : ReportsFit ρ limit) (budget : Nat)
    (h : Records limit made c) : ∃ made, Records limit made (LineEnd.pump budget c) := by
  refine LineEnd.pump_induction (P := fun c => ∃ made, Records limit made c) ?_ budget ⟨made, h⟩
  rintro c ⟨made, h⟩
  have read : Records limit made (LineEnd.readChunk c).2 := h.of_same rfl rfl rfl
  obtain ⟨made', handled⟩ := read.handleAll wide fit
    ((LineEnd.assembler (LineEnd.readChunk c).2).feed (LineEnd.readChunk c).1).1
  rw [LineEnd.take_eq]
  exact ⟨made', handled.of_same rfl rfl rfl⟩

theorem Records.tick (wide : Settings.minFrameBytes ≤ limit) (fit : ReportsFit ρ limit)
    (h : Records limit made c) : ∃ made, Records limit made c.tick := by
  obtain ⟨made', pumped⟩ := h.pump wide fit pumpBudget
  have served := pumped.onStation Station.tick
  rw [Companion.tick]
  split
  · exact ⟨made', served⟩
  · obtain ⟨answer, reported⟩ := served.report wide fit
    exact ⟨_, reported⟩

variable [Storage σ]

theorem Records.perform (wide : Settings.minFrameBytes ≤ limit) (fit : ReportsFit ρ limit)
    (h : Records limit made c) (act : Act ω ρ β σ) :
    ∃ made, Records limit made (Logged.perform act c) := by
  cases act with
  | tick => exact h.tick wide fit
  | console line => exact ⟨made, h.console line⟩
  | line line => exact h.handle wide fit line
  | manage calls => exact ⟨made, h.onStation calls⟩
  | surround wire radio client board => exact ⟨made, h.of_same rfl rfl rfl⟩

theorem Records.run (wide : Settings.minFrameBytes ≤ limit) (fit : ReportsFit ρ limit)
    (h : Records limit made c) (acts : List (Act ω ρ β σ)) :
    ∃ made, Records limit made (Logged.run acts c) := by
  induction acts generalizing c made with
  | nil => exact ⟨made, h⟩
  | cons act acts ih =>
    obtain ⟨made', performed⟩ := h.perform wide fit act
    exact ih performed

/-- At the end of every tick the last report that the wire was given, and nothing else is written to it, says
what the companion is connected to. So the last one that the wire accepted does, unless the wire has since
refused one that says something else: that one is not made up for. -/
theorem told_iff {settings : Settings} (valid : settings.validate = .ok ())
    (fit : ReportsFit ρ settings.relay.maxFrameBytes) (wire : ω) (station : Station ρ β σ)
    (acts : List (Act ω ρ β σ)) :
    let c := run (acts ++ [.tick]) (.start settings { wire } station)
    (∀ e ∈ c.wire.log, (reportOn? e.1).isSome) ∧
      lastPair c.wire.tried = c.pair ∧
      (lastPair c.wire.told = c.pair ↔
        ∀ line r, c.wire.log.getLast? = some (line, false) → reportOn? line = some r →
          r.pair = lastPair c.wire.told) := by
  intro c
  have wide := Settings.minFrameBytes_le valid
  have start : Records settings.relay.maxFrameBytes [] (.start settings { wire } station) :=
    ⟨rfl, rfl, rfl⟩
  obtain ⟨made, records⟩ := start.run wide fit (acts ++ [Act.tick])
  have current : c.reported = c.pair := by
    have ticked : c = (run acts (.start settings { wire } station)).tick := by
      change run _ _ = _
      rw [run, List.foldl_append]
      rfl
    rw [ticked]
    exact Companion.reported_tick _
  have said : lastPair c.wire.tried = c.pair := by rw [records.tried, ← records.reported, current]
  refine ⟨?_, said, ?_⟩
  · intro e he
    rw [records.log] at he
    obtain ⟨m, -, rfl⟩ := List.mem_map.1 he
    rw [reportOn?_line]
    rfl
  · rw [← said, records.tried, records.told, lastPair_accepted_iff, records.log, List.getLast?_map]
    constructor
    · intro h line r last carried
      obtain ⟨⟨r', answer⟩, found, shape⟩ := Option.map_eq_some_iff.1 last
      cases shape
      rw [reportOn?_line] at carried
      cases carried
      exact h r' found
    · intro h r found
      exact h r.line r (by rw [found]; rfl) (reportOn?_line r)

end Radio

/-! ## A change that is not reported -/

namespace Sample

open Pair.Sample

/-- The wire refuses the report that the link is up, and works again before the next tick. -/
def acts : List (Act Bench.Wire FixedRadio Bench.Client Store.Flash) :=
  [ .console "wifi ssid=home pass=secret01",
    .surround { refusesWrites := true } { connected := true } {} board,
    .tick,
    .surround {} { connected := true } {} board ]

def companion : Companion (Logged Bench.Wire) FixedRadio Bench.Client Store.Flash :=
  .start {} { wire := {} } station

/-- The last tick writes nothing, so no write of it fails, and the main unit is left without the news. -/
theorem change_unreported :
    (run (acts ++ [.tick]) companion).wire.log = (run acts companion).wire.log ∧
      lastPair (run (acts ++ [.tick]) companion).wire.told ≠ (run (acts ++ [.tick]) companion).pair := by
  have valid : ({} : Settings).validate = .ok () := rfl
  have fit := hasShortAddresses.reportsFit (Settings.minFrameBytes_le valid)
  obtain ⟨-, -, iff⟩ := told_iff valid fit {} station acts
  have quiet : (run (acts ++ [.tick]) companion).wire.log = (run acts companion).wire.log := by
    decide +kernel
  refine ⟨quiet, fun told => ?_⟩
  let news : Report := { status := "ok", link := true, broker := false, address := some "192.168.1.50" }
  have last : (run (acts ++ [.tick]) companion).wire.log.getLast? = some (news.line, false) := by
    decide +kernel
  have heard : lastPair (run (acts ++ [.tick]) companion).wire.told = (false, false) := by
    decide +kernel
  have said := iff.1 told news.line news last (reportOn?_line news)
  cases said.trans heard

end Sample

end Logged
end Telemetry.Relay
