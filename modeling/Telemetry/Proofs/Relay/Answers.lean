import Telemetry.Proofs.Broker.Standing
import Telemetry.Proofs.Relay.Refusals

/-!
# Answers to queries

In a tick the companion answers each query among the lines that the bytes it reads complete, in order and before the
managers are served. Taking in what has arrived never changes what it is connected to, so all the answers say the
same. Then it reports once more, if that differs from what was reported last.
-/

namespace Telemetry.Relay

/-- A wire that remembers the bytes that were read from it. -/
structure Tapped (ω : Type) where
  wire : ω
  heard : List UInt8 := []

instance {ω : Type} [Wire ω] : Wire (Tapped ω) where
  writeLine line w :=
    let r := Wire.writeLine line w.wire
    (r.1, { w with wire := r.2 })
  read limit w :=
    let r := Wire.read limit w.wire
    (r.1, { wire := r.2, heard := w.heard ++ match r.1 with | .ok bytes => bytes | .error _ => [] })

/-- Whatever is written, the wire takes it. -/
def Takes (ω : Type) [Wire ω] : Prop :=
  ∀ (line : String) (w : ω), Transport.accepted (Wire.writeLine line w).1 = true

/-- Does the line ask for a report? -/
def isQuery (line : String) : Bool :=
  match Frame.parse line with
  | .ok (some .query) => true
  | _ => false

namespace Companion

variable {ω ρ β σ : Type} [Radio ρ]

/-- A query is answered by a report. Of the other lines, some have a record published and the rest do nothing. -/
theorem handle_cases [Wire ω] [Client β] (line : String) (c : Companion ω ρ β σ) :
    isQuery line = true ∧ c.handle line = c.report ∨
      isQuery line = false ∧ ((∃ data, c.handle line = (c.publishData data).2) ∨ c.handle line = c) := by
  unfold handle isQuery
  cases Frame.parse line with
  | error e => exact .inr ⟨rfl, .inr rfl⟩
  | ok frame =>
    cases frame with
    | none => exact .inr ⟨rfl, .inr rfl⟩
    | some frame =>
      cases frame with
      | publish data => exact .inr ⟨rfl, .inl ⟨data, rfl⟩⟩
      | query => exact .inl ⟨rfl, rfl⟩
      | report r => exact .inr ⟨rfl, .inr rfl⟩

/-- What is no query is answered by nothing. -/
theorem wire_handle [Wire ω] [Client β] {line : String} (other : isQuery line = false) (c : Companion ω ρ β σ) :
    (c.handle line).wire = c.wire := by
  obtain ⟨query, -⟩ | ⟨-, ⟨data, handled⟩ | handled⟩ := handle_cases line c
  · rw [query] at other
    cases other
  · rw [handled]
    rfl
  · rw [handled]

/-- A record that is published leaves the status of the session alone. -/
theorem currentReport_publishData [Client β] (data : Json) (c : Companion ω ρ β σ) :
    (c.publishData data).2.currentReport = c.currentReport := by
  have published :=
    Broker.outward_publish (itemId data) (c.broker.topics.item (itemId data)) (Text.utf8 data.render) c.broker
  have session : (c.publishData data).2.broker.isConnected = c.broker.isConnected :=
    congrArg Status.isConnected published.status
  change Report.mk aliveStatus c.link.isConnected (c.publishData data).2.broker.isConnected c.link.address? = _
  rw [session]
  rfl

end Companion

namespace Logged

variable {ω ρ β σ : Type} [Radio ρ] {bytes bytes' : List UInt8} {lines lines' : List String}
  {c c' c'' : Companion (Logged (Tapped ω)) ρ β σ}

/-- On the way from `c` to `c'` these bytes were read, each query among the lines was answered, and nothing else was
written. -/
structure Answers (bytes : List UInt8) (lines : List String) (c c' : Companion (Logged (Tapped ω)) ρ β σ) : Prop where
  heard : c'.wire.wire.heard = c.wire.wire.heard ++ bytes
  log : c'.wire.log = c.wire.log ++ (lines.filter isQuery).map fun _ => (c.currentReport.line, true)
  current : c'.currentReport = c.currentReport
  frameLimit : c'.frameLimit = c.frameLimit

/-- What leaves the wire alone reads nothing and answers nothing. -/
theorem Answers.of_same (wire : c'.wire = c.wire) (current : c'.currentReport = c.currentReport)
    (frameLimit : c'.frameLimit = c.frameLimit) : Answers [] [] c c' :=
  ⟨by simp [wire], by simp [wire], current, frameLimit⟩

theorem Answers.trans (h : Answers bytes lines c c') (h' : Answers bytes' lines' c' c'') :
    Answers (bytes ++ bytes') (lines ++ lines') c c'' := by
  refine ⟨?_, ?_, h'.current.trans h.current, h'.frameLimit.trans h.frameLimit⟩
  · rw [h'.heard, h.heard, List.append_assoc]
  · rw [h'.log, h.log, h.current, List.filter_append, List.map_append, List.append_assoc]

/-- A line that is no query and is handled without a word. -/
theorem Answers.of_other {line : String} (other : isQuery line = false) (h : Answers [] [] c c') :
    Answers [] [line] c c' := by
  refine ⟨h.heard, ?_, h.current, h.frameLimit⟩
  rw [List.filter_cons_of_neg (Bool.eq_false_iff.1 other)]
  exact h.log

/-- What the companion reports is short enough for its frame limit. -/
def Fits (c : Companion (Logged (Tapped ω)) ρ β σ) : Prop := (Text.utf8 c.currentReport.line).length ≤ c.frameLimit

theorem Fits.after (fits : Fits c) (h : Answers bytes lines c c') : Fits c' := by
  unfold Fits
  rwa [h.current, h.frameLimit]

variable [Wire ω]

theorem answers_report (takes : Takes ω) (fits : Fits c) {line : String} (query : isQuery line = true) :
    Answers [] [line] c c.report := by
  rw [Companion.report_of_fit fits]
  refine ⟨(List.append_nil _).symm, ?_, rfl, rfl⟩
  rw [List.filter_cons_of_pos query, ← takes c.currentReport.line c.wire.wire.wire]
  rfl

variable [Client β]

theorem answers_handle (takes : Takes ω) (fits : Fits c) (line : String) : Answers [] [line] c (c.handle line) := by
  obtain ⟨query, handled⟩ | ⟨other, ⟨data, handled⟩ | handled⟩ := Companion.handle_cases line c
  · rw [handled]
    exact answers_report takes fits query
  · rw [handled]
    exact .of_other other (.of_same rfl (Companion.currentReport_publishData data c) rfl)
  · rw [handled]
    exact .of_other other (.of_same rfl rfl rfl)

theorem answers_handleAll (takes : Takes ω) (lines : List String) (fits : Fits c) :
    Answers [] lines c (LineEnd.handleAll lines c) := by
  induction lines generalizing c with
  | nil => exact .of_same rfl rfl rfl
  | cons line lines ih =>
    have first := answers_handle takes fits line
    rw [LineEnd.handleAll_cons, Companion.lineEnd_handle]
    exact first.trans (ih (fits.after first))

theorem answers_readChunk (c : Companion (Logged (Tapped ω)) ρ β σ) :
    Answers (LineEnd.readChunk c).1 [] c (LineEnd.readChunk c).2 :=
  ⟨rfl, (List.append_nil _).symm, rfl, rfl⟩

/-- Of what has arrived, the companion reads some bytes, and it answers the queries that these complete. -/
theorem answers_pump (takes : Takes ω) (budget : Nat) (fits : Fits c) :
    ∃ bytes, Answers bytes (c.assembler.feed bytes).1 c (LineEnd.pump budget c) := by
  have stays : Answers [] (c.assembler.feed []).1 c c := .of_same rfl rfl rfl
  -- The assembler has to be known as well: it holds what was read of the line after the last.
  refine (LineEnd.pump_induction (P := fun c' => ∃ bytes, c'.assembler = (c.assembler.feed bytes).2 ∧
    Answers bytes (c.assembler.feed bytes).1 c c') ?_ budget ⟨[], rfl, stays⟩).imp fun _ h => h.2
  rintro c' ⟨bytes, assembler, served⟩
  let chunk := (LineEnd.readChunk c').1
  let read : Companion (Logged (Tapped ω)) ρ β σ := (LineEnd.readChunk c').2
  let fed := (c.assembler.feed bytes).2.feed chunk
  have next := served.trans (answers_readChunk c')
  have handled := next.trans (answers_handleAll takes fed.1 (fits.after next))
  have taken : LineEnd.take chunk read = { LineEnd.handleAll fed.1 read with assembler := fed.2 } := by
    have own : LineEnd.assembler read = (c.assembler.feed bytes).2 := assembler
    rw [LineEnd.take_eq, own]
    rfl
  refine ⟨bytes ++ chunk, ?_, ?_⟩
  · rw [Assembler.feed_append]
    exact congrArg (·.assembler) taken
  · rw [Assembler.feed_append]
    change Answers _ _ c (LineEnd.take chunk read)
    rw [taken]
    rw [List.append_nil, List.append_nil] at handled
    exact ⟨handled.heard, handled.log, handled.current, handled.frameLimit⟩

/-! ## A tick -/

/-- After the answers the companion reports once more, if it is connected to something else than it reported last. -/
theorem log_tick {limit : Nat} {made : List (Report × Bool)} (wide : Settings.minFrameBytes ≤ limit)
    (fit : ReportsFit ρ limit) (takes : Takes ω) (h : Records limit made c) :
    ∃ bytes, c.tick.wire.wire.heard = c.wire.wire.heard ++ bytes ∧
      let queries := (c.assembler.feed bytes).1.filter isQuery
      let answered := c.wire.log ++ queries.map fun _ => (c.currentReport.line, true)
      c.tick.wire.log = answered ++
        if c.tick.pair = lastPair (reportsOn answered) then [] else [(c.tick.currentReport.line, true)] := by
  have fits : ∀ {c : Companion (Logged (Tapped ω)) ρ β σ}, c.frameLimit = limit → Fits c := fun same =>
    (Companion.length_currentReport_le_of_fit wide fit _).trans_eq same.symm
  obtain ⟨bytes, pumped⟩ := answers_pump takes pumpBudget (fits h.frameLimit)
  obtain ⟨made', recorded⟩ := h.pump wide fit pumpBudget
  let served : Companion (Logged (Tapped ω)) ρ β σ := (LineEnd.pump pumpBudget c).onStation Station.tick
  have last : served.reported = lastPair (reportsOn (LineEnd.pump pumpBudget c).wire.log) :=
    recorded.reported.trans (congrArg lastPair recorded.tried.symm)
  rw [pumped.log] at last
  have ticked : c.tick = if served.pair = served.reported then served else served.report := rfl
  refine ⟨bytes, ?_⟩
  by_cases same : served.pair = served.reported
  · rw [ticked, if_pos same]
    refine ⟨pumped.heard, ?_⟩
    dsimp only
    rw [← last, if_pos same, List.append_nil]
    exact pumped.log
  · have changed : served.report.pair = served.pair := (Companion.reported_report served).2
    have reported := Companion.report_of_fit (fits recorded.frameLimit : Fits served)
    have said : served.report.currentReport = served.currentReport := by
      rw [reported]
      rfl
    rw [ticked, if_neg same]
    refine ⟨?_, ?_⟩
    · rw [reported]
      exact pumped.heard
    · dsimp only
      rw [changed, ← last, if_neg same, said, ← pumped.log, reported, ← takes served.currentReport.line served.wire.wire.wire]
      rfl

/-- In each tick the companion answers, with what it is connected to before the managers are served, each query that
the bytes it reads complete, and no other line. Then it reports once more exactly if it is connected to something else
than the last of all reports said. Settings that are valid leave room for every report. -/
theorem tick_answers [Storage σ] {settings : Settings} (valid : settings.validate = .ok ())
    (short : HasShortAddresses ρ) (takes : Takes ω) (wire : Tapped ω) (station : Station ρ β σ)
    (acts : List (Act (Tapped ω) ρ β σ)) :
    let c := run acts (.start settings { wire } station)
    (∃ bytes, c.tick.wire.wire.heard = c.wire.wire.heard ++ bytes ∧
      let queries := (c.assembler.feed bytes).1.filter isQuery
      let answered := c.wire.log ++ queries.map fun _ => (c.currentReport.line, true)
      c.tick.wire.log = answered ++
        if c.tick.pair = lastPair (reportsOn answered) then [] else [(c.tick.currentReport.line, true)]) ∧
    (∀ e ∈ c.wire.log, (reportOn? e.1).isSome) ∧
    (Frame.report c.currentReport).encode c.frameLimit = .ok c.currentReport.line ∧
    ∀ line, isQuery line = false → (c.handle line).wire = c.wire := by
  intro c
  have wide := Settings.minFrameBytes_le valid
  have fit := short.reportsFit wide
  have start : Records settings.relay.maxFrameBytes [] (.start settings { wire } station) := ⟨rfl, rfl, rfl⟩
  obtain ⟨made, records⟩ := start.run wide fit acts
  have within := Companion.length_currentReport_le_of_fit wide fit c
  refine ⟨log_tick wide fit takes records, ?_, ?_, fun line other => Companion.wire_handle other c⟩
  · intro e he
    rw [records.log] at he
    obtain ⟨m, -, rfl⟩ := List.mem_map.1 he
    rw [reportOn?_line]
    rfl
  · rw [records.frameLimit]
    exact Frame.encode_iff.2 ⟨rfl, within⟩

/-! ## A query and a change in one tick -/

namespace Asked

open Pair.Sample

def arrived : List UInt8 := Text.utf8 "\x7b\"cmd\":\"status\"\x7d\nnonsense\n\x7b\"cmd\":"

/-- The link has been turned on and comes up while a query, a line of no use and a part of a line wait. -/
def acts : List (Act (Tapped Port) FixedRadio Bench.Client Store.Flash) :=
  [ .console "wifi ssid=home pass=secret01",
    .surround { wire := { inbound := arrived } } { connected := true } {} board ]

def companion : Companion (Logged (Tapped Port)) FixedRadio Bench.Client Store.Flash :=
  .start {} { wire := { wire := {} } } station

/-- The answer does not know yet what the report that follows it says. -/
theorem answered_and_reported :
    (run acts companion).tick.wire.log =
      [ (Report.line { status := "ok", link := false, broker := false, address := none }, true),
        (Report.line { status := "ok", link := true, broker := false, address := some "192.168.1.50" }, true) ] := by
  have valid : ({} : Settings).validate = .ok () := rfl
  have takes : Takes Port := fun _ _ => rfl
  obtain ⟨⟨bytes, heard, log⟩, -⟩ := tick_answers valid hasShortAddresses takes { wire := {} } station acts
  have all : (run acts companion).tick.wire.wire.heard = [] ++ arrived := by decide +kernel
  obtain rfl : bytes = arrived := List.append_cancel_left (heard.symm.trans all)
  exact log.trans (by decide +kernel)

end Asked

end Logged

end Telemetry.Relay
