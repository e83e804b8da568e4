import Telemetry.Proofs.Relay.Channel
import Telemetry.Proofs.Relay.Frames

/-!
# What the companion reports

On its end of a wire the companion writes nothing but reports, each short enough for the least frame limit,
and it holds to be reported what the last one says.
-/

namespace Telemetry.Relay

namespace Report

/-- The report as it is sent. -/
def line (r : Report) : String := (Frame.report r).json.render

def pair (r : Report) : Bool × Bool := (r.link, r.broker)

end Report

/-- What the last report says. Before any report, nothing is connected. -/
def lastPair (reports : List Report) : Bool × Bool :=
  (reports.getLast?.map Report.pair).getD (false, false)

/-! ## The length of a report -/

/-- An address of at most fifteen digits and dots. -/
def IsShortAddress (address : String) : Prop :=
  address.toList.length ≤ 15 ∧ ∀ c ∈ address.toList, c.isDigit = true ∨ c = '.'

theorem IsShortAddress.ascii {address : String} (h : IsShortAddress address) :
    ∀ c ∈ address.toList, c.toNat < 128 := by
  intro c hc
  have small : ∀ d ∈ ['0', '1', '2', '3', '4', '5', '6', '7', '8', '9'], d.toNat < 128 := by simp
  obtain digit | rfl := h.2 c hc
  · exact small c (Json.NumberPart.mem_digits digit)
  · decide

theorem encode_address {cs : List Char} (h : ∀ c ∈ cs, c.isDigit = true ∨ c = '.') :
    Json.Quoted.encode cs = cs := by
  have plain : ∀ c ∈ ['0', '1', '2', '3', '4', '5', '6', '7', '8', '9', '.'],
      Json.Quoted.encodeChar c = [c] := by simp [Json.Quoted.encodeChar]
  induction cs with
  | nil => rfl
  | cons c cs ih =>
    have first : Json.Quoted.encodeChar c = [c] := by
      apply plain
      obtain digit | rfl := h c List.mem_cons_self
      · exact List.mem_append_left ['.'] (Json.NumberPart.mem_digits digit)
      · decide
    have rest := ih fun d hd => h d (List.mem_cons_of_mem c hd)
    rw [Json.Quoted.encode, List.flatMap_cons, first]
    exact congrArg (c :: ·) rest

/-- The characters of a report up to its address. -/
def reportHead (link broker : Bool) : List Char :=
  "\x7b\"status\":\"ok\",\"wifi\":".toList ++ (toString link).toList ++ ",\"mqtt\":".toList ++
    (toString broker).toList ++ ",\"ip\":\"".toList

theorem chars_report {address : String}
    (plain : Json.Quoted.encode address.toList = address.toList) (link broker : Bool) :
    (Frame.report { status := "ok", link, broker, address := some address }).json.chars =
      reportHead link broker ++ (address.toList ++ ['"', '\x7d']) := by
  simp only [Frame.json, Json.chars, Json.fieldChars, Json.stringChars, plain, List.cons_append,
    List.nil_append, List.append_assoc]
  cases link <;> cases broker <;> rfl

/-- A report of a unit that is alive fits the least frame limit if its address is short. -/
theorem length_line_le {r : Report} (alive : r.status = Companion.aliveStatus)
    (short : ∀ a, r.address = some a → IsShortAddress a) :
    (Text.utf8 r.line).length ≤ Settings.minFrameBytes := by
  obtain ⟨status, link, broker, address⟩ := r
  cases alive
  cases address with
  | none =>
    have all : ∀ link broker, (Text.utf8 (Report.line
        { status := "ok", link, broker, address := none })).length ≤ 64 := by
      decide +kernel
    exact all link broker
  | some a =>
    obtain ⟨few, digits⟩ := short a rfl
    have head : ∀ link broker, (Text.utf8 (String.ofList (reportHead link broker))).length ≤ 47 := by
      decide +kernel
    have ascii : ∀ c ∈ a.toList ++ ['"', '\x7d'], c.toNat < 128 := by
      intro c hc
      obtain hc | hc := List.mem_append.1 hc
      · exact (short a rfl).ascii c hc
      · have small : ∀ d ∈ ['"', '\x7d'], d.toNat < 128 := by simp
        exact small c hc
    have first := head link broker
    change (Text.utf8 (String.ofList (Frame.report
      { status := "ok", link, broker, address := some a }).json.chars)).length ≤ 64
    rw [chars_report (encode_address digits), Text.utf8_append, List.length_append,
      Text.length_utf8_ascii ascii, List.length_append]
    change _ + (_ + 2) ≤ 64
    omega

/-! ## What the companion sends -/

theorem lastPair_append (x y : List Report) :
    lastPair (x ++ y) = (y.getLast?.map Report.pair).getD (lastPair x) := by
  unfold lastPair
  cases y using List.reverseRecOn <;> simp [← List.append_assoc]

/-- On the way from `c` to `c'` the companion sent these reports. -/
structure Tells {ρ β σ : Type} (c : Companion Port ρ β σ) (reports : List Report)
    (c' : Companion Port ρ β σ) : Prop where
  sent : c'.wire.outbound = c.wire.outbound ++ stream (reports.map Report.line)
  fit : ∀ r ∈ reports, (Text.utf8 r.line).length ≤ Settings.minFrameBytes
  reported : c'.reported = (reports.getLast?.map Report.pair).getD c.reported
  frameLimit : c'.frameLimit = c.frameLimit

variable {ρ β σ : Type} {c c' c'' : Companion Port ρ β σ} {reports reports' : List Report}

/-- What leaves the wire and the memory of the last report alone sends nothing. -/
theorem Tells.of_same (sent : c'.wire.outbound = c.wire.outbound) (reported : c'.reported = c.reported)
    (frameLimit : c'.frameLimit = c.frameLimit) : Tells c [] c' :=
  ⟨by simp [sent], nofun, reported, frameLimit⟩

theorem Tells.refl (c : Companion Port ρ β σ) : Tells c [] c := .of_same rfl rfl rfl

theorem Tells.wide (h : Tells c reports c') (wide : Settings.minFrameBytes ≤ c.frameLimit) :
    Settings.minFrameBytes ≤ c'.frameLimit := by
  rw [h.frameLimit]
  exact wide

theorem Tells.trans (h : Tells c reports c') (h' : Tells c' reports' c'') :
    Tells c (reports ++ reports') c'' := by
  refine ⟨?_, ?_, ?_, h'.frameLimit.trans h.frameLimit⟩
  · rw [h'.sent, h.sent, List.map_append, stream_append, List.append_assoc]
  · intro r hr
    obtain hr | hr := List.mem_append.1 hr
    · exact h.fit r hr
    · exact h'.fit r hr
  · rw [h'.reported, h.reported]
    cases reports' using List.reverseRecOn <;> simp [← List.append_assoc]

theorem Tells.onStation (h : Tells c reports c') (f : Station ρ β σ → Station ρ β σ) :
    Tells c reports (c'.onStation f) := ⟨h.sent, h.fit, h.reported, h.frameLimit⟩

section Radio

variable [Radio ρ]

/-- No radio has an address that would make a report too long. -/
def HasShortAddresses (ρ : Type) [Radio ρ] : Prop :=
  ∀ (radio : ρ) address, Radio.address radio = some address → IsShortAddress address

namespace Companion

theorem length_currentReport_le (short : HasShortAddresses ρ) (c : Companion Port ρ β σ) :
    (Text.utf8 c.currentReport.line).length ≤ Settings.minFrameBytes := by
  refine length_line_le rfl fun address h => ?_
  change c.link.address? = some address at h
  unfold Link.address? at h
  split at h
  · exact short _ address h
  · cases h

/-- After a report the companion holds to be reported what is the case. -/
theorem reported_report {ω : Type} [Wire ω] (c : Companion ω ρ β σ) :
    c.report.reported = c.pair ∧ c.report.pair = c.pair := by
  unfold report
  dsimp only
  split <;> exact ⟨rfl, rfl⟩

/-- A report that is within the limit is written. -/
theorem report_of_fit {ω : Type} [Wire ω] {c : Companion ω ρ β σ}
    (fit : (Text.utf8 c.currentReport.line).length ≤ c.frameLimit) :
    c.report = write c.currentReport.line { c with reported := c.currentReport.pair } := by
  have encoded : (Frame.report c.currentReport).encode c.frameLimit = .ok c.currentReport.line :=
    Frame.encode_iff.2 ⟨rfl, fit⟩
  unfold report
  dsimp only
  rw [encoded]
  rfl

theorem tells_report (short : HasShortAddresses ρ) {c : Companion Port ρ β σ}
    (wide : Settings.minFrameBytes ≤ c.frameLimit) : Tells c [c.currentReport] c.report := by
  have fit := length_currentReport_le short c
  rw [report_of_fit (fit.trans wide)]
  exact ⟨rfl, by simpa using fit, rfl, rfl⟩

variable [Client β]

theorem tells_handle (short : HasShortAddresses ρ) (line : String) {c : Companion Port ρ β σ}
    (wide : Settings.minFrameBytes ≤ c.frameLimit) : ∃ reports, Tells c reports (handle line c) := by
  unfold handle
  split
  · exact ⟨[], .of_same rfl rfl rfl⟩
  · exact ⟨_, tells_report short wide⟩
  · exact ⟨[], .refl c⟩

theorem tells_handleAll (short : HasShortAddresses ρ) (lines : List String)
    {c : Companion Port ρ β σ} (wide : Settings.minFrameBytes ≤ c.frameLimit) :
    ∃ reports, Tells c reports (LineEnd.handleAll lines c) := by
  induction lines generalizing c with
  | nil => exact ⟨[], .refl c⟩
  | cons line lines ih =>
    obtain ⟨first, told⟩ := tells_handle short line wide
    obtain ⟨rest, told'⟩ := ih (c := handle line c) (told.wide wide)
    rw [LineEnd.handleAll_cons, lineEnd_handle]
    exact ⟨first ++ rest, told.trans told'⟩

theorem tells_withAssembler (a : Assembler) (c : Companion Port ρ β σ) :
    Tells c [] (LineEnd.withAssembler a c) := .of_same rfl rfl rfl

/-- Taking in what has arrived writes nothing but the answers to the lines in it. -/
theorem tells_take (short : HasShortAddresses ρ) (bytes : List UInt8) {c : Companion Port ρ β σ}
    (wide : Settings.minFrameBytes ≤ c.frameLimit) :
    ∃ reports, Tells c reports (LineEnd.take bytes c) := by
  rw [LineEnd.take_eq]
  generalize (LineEnd.assembler c).feed bytes = fed
  obtain ⟨reports, told⟩ := tells_handleAll short fed.1 wide
  exact ⟨reports ++ [], told.trans (tells_withAssembler fed.2 _)⟩

theorem tells_pump (short : HasShortAddresses ρ) (budget : Nat) {c : Companion Port ρ β σ}
    (wide : Settings.minFrameBytes ≤ c.frameLimit) :
    ∃ reports, Tells c reports (LineEnd.pump budget c) := by
  refine LineEnd.pump_induction (P := fun c' => ∃ reports, Tells c reports c') ?_ budget
    ⟨[], .refl c⟩
  rintro c' ⟨reports, told⟩
  have read : Tells c' [] (LineEnd.readChunk c').2 := .of_same rfl rfl rfl
  have told := told.trans read
  obtain ⟨answers, told'⟩ :=
    tells_take short (LineEnd.readChunk c').1 (c := (LineEnd.readChunk c').2) (told.wide wide)
  exact ⟨reports ++ [] ++ answers, told.trans told'⟩

theorem tells_tick (short : HasShortAddresses ρ) {c : Companion Port ρ β σ}
    (wide : Settings.minFrameBytes ≤ c.frameLimit) : ∃ reports, Tells c reports c.tick := by
  obtain ⟨reports, told⟩ := tells_pump short pumpBudget wide
  have served := told.onStation Station.tick
  rw [tick]
  split
  · exact ⟨_, served⟩
  · exact ⟨_, served.trans (tells_report short (served.wide wide))⟩

/-- A tick ends with what is the case reported. -/
theorem reported_tick {ω : Type} [Wire ω] (c : Companion ω ρ β σ) : c.tick.reported = c.tick.pair := by
  rw [tick]
  split
  · next same => exact same.symm
  · have told := reported_report ((LineEnd.pump pumpBudget c).onStation Station.tick)
    exact told.1.trans told.2.symm

/-- The console works on the station and on nothing else. -/
theorem exists_onStation_console [Storage σ] {ω : Type} (line : String) (c : Companion ω ρ β σ) :
    ∃ f : Station ρ β σ → Station ρ β σ, (c.console line).2 = c.onStation f := by
  have asked : ∀ {α : Type} {f : Station ρ β σ → α × Station ρ β σ} {answer : α}
      {c' : Companion ω ρ β σ}, c.askStation f = (answer, c') →
        c' = c.onStation fun _ => c'.toStation := by
    rintro α f answer c' ⟨⟩
    rfl
  unfold console
  split
  · exact ⟨id, rfl⟩
  · exact ⟨id, rfl⟩
  · exact ⟨id, rfl⟩
  · exact ⟨id, rfl⟩
  · exact ⟨fun _ => c.reset.2.toStation, rfl⟩
  · unfold setNetwork
    split
    · next c' h => exact ⟨_, asked h⟩
    · next c' h =>
      rw [asked h]
      exact ⟨fun _ => c'.toStation.onLink fun l => l.disable.enable, rfl⟩
  · unfold setBroker
    dsimp only
    split
    · next c' h => exact ⟨_, asked h⟩
    · next c' h =>
      rw [asked h]
      exact ⟨fun _ => c'.toStation.onBroker fun b => b.disable.enable c.link.isConnected, rfl⟩

/-- What the console changes is reported at the next tick and not before. -/
theorem tells_console [Storage σ] (line : String) (c : Companion Port ρ β σ) :
    Tells c [] (c.console line).2 := by
  obtain ⟨f, changed⟩ := exists_onStation_console line c
  rw [changed]
  exact (Tells.refl c).onStation f

end Companion

end Radio

end Telemetry.Relay
