import Telemetry.Proofs.Relay.LinkFirst
import Telemetry.Proofs.Station.Blank

/-!
# The reset

A reset over the console leaves a blank station, whatever the companion has gone through. From then on the companion
serves its wire and prints what it is asked for, but nothing on the wire sets anything up, and neither does the
console but for its two lines that are made for it. So the station stays blank and leaves its hardware alone.
-/

namespace Telemetry

namespace Station

variable {ρ β σ : Type} [Radio ρ] [Client β] [Storage σ]

theorem Sound.wiped {s : Station ρ β σ} (h : Sound s) : Sound s.wiped := by
  have operated : Operated s s.cleared := (Operated.refl.broker .clearEndpoint).link .clearCredentials
  obtain ⟨link, broker⟩ := h.operated operated
  exact ⟨⟨link.on, link.off, link.valid⟩, ⟨broker.on, broker.off, broker.valid, broker.fits⟩⟩

end Station

namespace Relay.Companion

open Storage Station

variable {ω ρ β σ : Type} [Wire ω] [Radio ρ] [Client β] [Storage σ] {c : Companion ω ρ β σ}

/-! ## Sound companions -/

omit [Wire ω] in
theorem sound_console (h : Sound c.toStation) (text : String) : Sound (c.console text).2.toStation := by
  unfold console
  split
  · exact h
  · exact h
  · exact h
  · exact h
  · exact h.wiped
  · exact h.operated (operated_setNetwork _ _ c)
  · exact h.operated (operated_setBroker _ _ _ _ c)

theorem Input.sound (input : Input) (h : Sound c.toStation) : Sound (input.ask c).2.toStation := by
  cases input with
  | tick =>
    simp only [Input.ask]
    exact h.operated (operated_tick c)
  | console text => exact sound_console h text
  | line text =>
    simp only [Input.ask]
    exact h.operated (operated_handle text c)
  | publish data => exact h.operated (Operated.refl.broker (.publish _ _ _))
  | station op =>
    have performed := h.operated (operated_perform op c.toStation)
    rw [← ask_eq_perform] at performed
    exact performed

/-- Whatever surroundings a companion is put into and whatever is asked of it, its managers are sound. -/
theorem sound_after (settings : Settings) (wire : ω) (watched : Bool) (radio : ρ) (client : β) (board : Board σ)
    (past : List (Step ω ρ β σ)) :
    Sound (after Step.ask past (start settings wire (Station.start settings watched radio client board))).toStation := by
  refine after_induction (P := fun c : Companion ω ρ β σ => Sound c.toStation) ?_ past
    (sound_start settings watched radio client board)
  intro step c h
  have met : Sound (c.meet step).toStation :=
    ⟨⟨h.link.on, h.link.off, h.link.valid⟩, ⟨h.broker.on, h.broker.off, h.broker.valid, h.broker.fits⟩⟩
  exact step.input.sound met

/-! ## Companions that stay blank -/

variable {good : σ → Prop}

omit [Client β] in
theorem rests_report (h : Blank c.toStation) (hg : good c.store) : Rests good c.toStation c.report.toStation := by
  unfold report
  dsimp only
  split
  · exact h.rests hg (grows_snoc (P := fun e => e.isIdle = true) rfl c.trace)
  · exact .refl h hg

theorem rests_handle (line : String) (h : Blank c.toStation) (hg : good c.store) :
    Rests good c.toStation (c.handle line).toStation := by
  unfold handle
  split
  · next data _ => exact h.publish hg _ _ _
  · exact rests_report h hg
  · exact .refl h hg

theorem rests_handleAll (lines : List String) (h : Blank c.toStation) (hg : good c.store) :
    Rests good c.toStation (LineEnd.handleAll lines c).toStation := by
  induction lines generalizing c with
  | nil => exact .refl h hg
  | cons line lines ih =>
    have first := rests_handle line h hg
    rw [LineEnd.handleAll_cons, lineEnd_handle]
    exact first.trans (ih first.blank first.good)

theorem rests_pump (budget : Nat) (h : Blank c.toStation) (hg : good c.store) :
    Rests good c.toStation (LineEnd.pump budget c).toStation := by
  refine LineEnd.pump_induction (P := fun d : Companion ω ρ β σ => Rests good c.toStation d.toStation) ?_ budget
    (.refl h hg)
  intro d rests
  rw [LineEnd.take_eq]
  exact rests.trans (rests_handleAll _ (c := (LineEnd.readChunk d).2) rests.blank rests.good)

theorem rests_tick (h : Blank c.toStation) (hg : good c.store) : Rests good c.toStation c.tick.toStation := by
  have pumped := rests_pump pumpBudget h hg
  let ticked := (LineEnd.pump pumpBudget c).onStation Station.tick
  have same : ticked.toStation = (LineEnd.pump pumpBudget c).toStation := pumped.blank.tick
  have served : Rests good c.toStation ticked.toStation := by rwa [same]
  obtain quiet | reported := tick_cases c
  · rwa [quiet]
  · rw [reported]
    exact served.trans (rests_report served.blank served.good)

/-- Is it the wire, the clock or a line of the console that sets nothing up? -/
def Input.isPassive : Input → Bool
  | tick | line _ | publish _ => true
  | console text =>
    match Console.parse text with
    | .ok (some (.wifi _ _)) | .ok (some (.mqtt _ _ _ _)) => false
    | _ => true
  | station _ => false

omit [Wire ω] in
theorem rests_console (reliable : Reliable good) {text : String} (passive : (Input.console text).isPassive = true)
    (h : Blank c.toStation) (hg : good c.store) : Rests good c.toStation (c.console text).2.toStation := by
  unfold Input.isPassive at passive
  unfold console
  split
  · exact .refl h hg
  · exact .refl h hg
  · exact .refl h hg
  · exact .refl h hg
  · exact h.wiped reliable hg
  · next asked => simp [asked] at passive
  · next asked => simp [asked] at passive

theorem Input.rests (reliable : Reliable good) {input : Input} (passive : input.isPassive = true)
    (h : Blank c.toStation) (hg : good c.store) : Rests good c.toStation (input.ask c).2.toStation := by
  cases input with
  | tick =>
    simp only [Input.ask]
    exact rests_tick h hg
  | console text => exact rests_console reliable passive h hg
  | line text =>
    simp only [Input.ask]
    exact rests_handle text h hg
  | publish data => exact h.publish hg _ _ _
  | station op => cases passive

/-! ## Runs -/

/-- Something that is asked of a companion, and its surroundings at that time. The store is its own. -/
structure Moment (ω ρ β : Type) where
  wire : ω
  radio : ρ
  client : β
  journal : Journal
  input : Input

/-- The companion as it finds itself at a moment. -/
def reach (m : Moment ω ρ β) (c : Companion ω ρ β σ) : Companion ω ρ β σ :=
  { c.onStation (Station.surround m.radio m.client m.journal) with wire := m.wire }

def Moment.ask (m : Moment ω ρ β) (c : Companion ω ρ β σ) : Answer × Companion ω ρ β σ := m.input.ask (c.reach m)

omit [Wire ω] [Radio ρ] [Client β] in
theorem blank_reach (m : Moment ω ρ β) (h : Blank c.toStation) : Blank (c.reach m).toStation :=
  h.surround m.radio m.client m.journal

theorem blank_after (reliable : Reliable good) {moments : List (Moment ω ρ β)}
    (passive : ∀ m ∈ moments, m.input.isPassive = true) (h : Blank c.toStation) (hg : good c.store) :
    Blank (after Moment.ask moments c).toStation ∧ good (after Moment.ask moments c).store := by
  induction moments generalizing c with
  | nil => exact ⟨h, hg⟩
  | cons m moments ih =>
    obtain ⟨first, others⟩ := List.forall_mem_cons.1 passive
    have asked := Input.rests reliable first (blank_reach m h) hg
    exact ih others asked.blank asked.good

/-- Is it the line of the console that forgets everything? -/
def Input.isReset : Input → Bool
  | console text =>
    match Console.parse text with
    | .ok (some .reset) => true
    | _ => false
  | _ => false

theorem toStation_of_isReset {input : Input} (h : input.isReset = true) :
    (input.ask c).2.toStation = c.toStation.wiped := by
  unfold Input.isReset at h
  split at h
  · next text =>
    split at h
    · next asked =>
      change (c.console text).2.toStation = _
      rw [console, asked]
      rfl
    · cases h
  · cases h

/-- Whatever a companion has gone through: if the store takes every write at the moment of a reset, both managers are
then off and not set up, each entry that waited has been dropped and its sender has been told so once, and the store is
empty. From there the companion takes in whatever arrives on its wire and is ticked and asked over the console, but for
setting up the link or the broker, without any request to the radio or the client for a connection or a message, and
the store stays empty. And a station started on that store is the one that a first start makes of an empty store. -/
theorem reset_blanks (reliable : Reliable good) (settings : Settings) (wire : ω) (watched : Bool) (radio : ρ)
    (client : β) (board : Board σ) (past : List (Step ω ρ β σ)) (step : Step ω ρ β σ) (hg : good step.board.store)
    (reset : step.input.isReset = true) :
    let c := (after Step.ask past (start settings wire (Station.start settings watched radio client board))).meet step
    let b := (step.input.ask c).2
    Blank b.toStation ∧
    (∃ es, b.trace = c.trace ++ es ∧
      Event.reports es = if c.broker.reporting then c.broker.outbox.entries.map fun e => (e.id, .dropped) else []) ∧
    (∀ (later : List (Moment ω ρ β)) (m : Moment ω ρ β), (∀ n ∈ later ++ [m], n.input.isPassive = true) →
      let d := (after Moment.ask later b).reach m
      let d' := (m.input.ask d).2
      Blank d'.toStation ∧ Grows (fun e => e.isIdle = true) d.trace d'.trace) ∧
    ∀ (settings : Settings) (watched : Bool) (radio : ρ) (client : β) (journal : Journal) (first : σ),
      (∀ k, lookup k first = none) →
      Station.start settings watched radio client { journal with store := b.store } =
        { Station.start settings watched radio client { journal with store := first } with store := b.store } := by
  intro c b
  have sound := (sound_after settings wire watched radio client board past).broker
  have wiped : b.toStation = c.toStation.wiped := toStation_of_isReset reset
  obtain ⟨blank, good', es, trace, told, -⟩ :=
    blank_wiped (s := c.toStation) reliable hg fun off => (sound.off off).2
  rw [← wiped] at blank good' trace
  rw [Broker.reports_droppedEvents] at told
  refine ⟨blank, ⟨es, trace, told⟩, ?_, ?_⟩
  · intro later m passive d d'
    obtain ⟨before, last⟩ := List.forall_mem_append.1 passive
    obtain ⟨still, good''⟩ := blank_after reliable before blank good'
    have asked := Input.rests reliable (last m List.mem_cons_self) (blank_reach m still) good''
    exact ⟨asked.blank, asked.idle⟩
  · intro settings watched radio client journal first empty
    exact start_of_empty blank.store empty settings watched radio client journal

/-! ## A reset while records wait -/

namespace Wiped

def board : Board Store.Flash := { now := 0, store := {} }

def record (id : Nat) : Json := .object [("item_id", .ofNat id)]

/-- The link and the broker are set up, and two records wait for a session. -/
def past : List (Step Bench.Wire Bench.Radio Bench.Client Store.Flash) :=
  [.console "wifi ssid=home pass=secret01", .console "mqtt broker=broker.local"].map (fun input =>
    { wire := {}, radio := {}, client := {}, board, input }) ++
  [.publish (record 7), .publish (record 9)].map fun input =>
    { wire := {}, radio := {}, client := {}, board, input }

/-- The store holds what was set up, and time has passed. -/
def step : Step Bench.Wire Bench.Radio Bench.Client Store.Flash where
  wire := {}
  radio := { connected := true }
  client := {}
  board := {
    now := 9000
    store := {
      values := [(Store.brokerEnabled, .bool true), (Store.brokerHost, .string "broker.local"),
        (Store.brokerPort, .integer 1883)] } }
  input := .console "reset"

def found : Companion Bench.Wire Bench.Radio Bench.Client Store.Flash :=
  (after Step.ask past (start {} {} (Station.start {} true {} {} board))).meet step

/-- Hours later a record and a query arrive, with a radio and a client that would do anything. -/
def later : Moment Bench.Wire Bench.Radio Bench.Client where
  wire := { inbound := Text.utf8 "\x7b\"cmd\":\"pub\",\"data\":\x7b\"item_id\":3\x7d\x7d\n\x7b\"cmd\":\"status\"\x7d\n" }
  radio := { connected := true }
  client := { connected := true }
  journal := { now := 9000000 }
  input := .tick

theorem dropped_and_blank :
    found.link.enabled = true ∧ found.broker.enabled = true ∧ (step.input.ask found).2.broker.enabled = false ∧
      (∃ es, (step.input.ask found).2.trace = found.trace ++ es ∧
        Event.reports es = [(7, .dropped), (9, .dropped)]) ∧
      Blank (later.ask (step.input.ask found).2).2.toStation := by
  have sorted : Dict.IsSorted step.board.store.values := by
    unfold Dict.IsSorted
    decide +kernel
  obtain ⟨blank, told, rests, -⟩ := reset_blanks Store.Flash.reliable_intact {} {} true {}
    {} board past step ⟨rfl, rfl, sorted⟩ (by decide +kernel)
  have waiting : (if found.broker.reporting then found.broker.outbox.entries.map fun e => (e.id, Delivery.dropped)
      else []) = [(7, .dropped), (9, .dropped)] := by decide +kernel
  have ticked := (rests [] later (by simp [later, Input.isPassive])).1
  refine ⟨by decide +kernel, by decide +kernel, blank.brokerOff, ?_, ticked⟩
  rw [← waiting]
  exact told

end Wiped

end Relay.Companion

end Telemetry
