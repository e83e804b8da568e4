import Telemetry.Bench.Equipment
import Telemetry.Proofs.Relay.Reports
import Telemetry.Proofs.Settings

/-!
# The units agree

The bytes that are on their way to the main unit are reports, though the first of them may have arrived in
part. What the companion holds to be reported is what the last report says, of those that the main unit has
handled and those on their way. So once the main unit has handled all, it knows the connectivity that the
companion had at its last tick.
-/

namespace Telemetry

namespace Relay

/-! ## What the main unit is to hear -/

/-- The last of some reports, then more. -/
theorem lastPair_getLast? (x y : List Report) :
    lastPair (x.getLast?.toList ++ y) = lastPair (x ++ y) := by
  have last : lastPair x.getLast?.toList = lastPair x := by
    unfold lastPair
    cases x.getLast? <;> rfl
  rw [lastPair_append, lastPair_append, last]

namespace MainUnit

/-- With the bytes still to come, what the main unit has is reports, and the last of them, or the one it
has handled if there are none, says this. -/
structure Expects (u : MainUnit Port) (later : List UInt8) (pair : Bool × Bool) : Prop where
  wide : Settings.minFrameBytes ≤ u.assembler.limit
  pending : ∃ reports,
    u.assembler.Awaits (u.wire.inbound ++ later) (reports.map Report.line) ∧
      (∀ r ∈ reports, (Text.utf8 r.line).length ≤ Settings.minFrameBytes) ∧
      pair = lastPair (u.report.toList ++ reports)

variable {u v : MainUnit Port} {later : List UInt8} {pair : Bool × Bool}

theorem expects_start {settings : Settings} (valid : settings.validate = .ok ()) (journal : Journal) :
    (start settings ({} : Port) journal).Expects [] (false, false) :=
  ⟨Settings.minFrameBytes_le valid, [], Assembler.awaits_ofLimit _ [], nofun, rfl⟩

/-- Only the assembler, the last report and the bytes at hand matter. -/
theorem Expects.of_same {moved : List UInt8} (h : u.Expects later pair)
    (assembler : v.assembler = u.assembler) (report : v.report = u.report)
    (bytes : v.wire.inbound ++ moved = u.wire.inbound ++ later) : v.Expects moved pair := by
  obtain ⟨wide, pending⟩ := h
  constructor
  · rwa [assembler]
  · rwa [assembler, report, bytes]

/-- New reports are written behind the bytes on their way. -/
theorem Expects.more (h : u.Expects later pair) {reports : List Report}
    (fit : ∀ r ∈ reports, (Text.utf8 r.line).length ≤ Settings.minFrameBytes) :
    u.Expects (later ++ stream (reports.map Report.line))
      ((reports.getLast?.map Report.pair).getD pair) := by
  obtain ⟨wide, pending, ⟨mode, clean, sent⟩, short, rfl⟩ := h
  refine ⟨wide, pending ++ reports, ⟨mode, clean, ?_⟩, ?_, ?_⟩
  · rw [List.map_append, stream_append, ← sent]
    simp
  · intro r hr
    obtain hr | hr := List.mem_append.1 hr
    · exact short r hr
    · exact fit r hr
  · rw [← List.append_assoc, lastPair_append (u.report.toList ++ pending)]

/-! ## Reading -/

theorem handle_report (r : Report) (u : MainUnit Port) :
    handle r.line u = { u with report := some r } := by
  rw [handle, Report.line, Frame.parse_report]

theorem handleAll_reports (reports : List Report) (u : MainUnit Port) :
    LineEnd.handleAll (reports.map Report.line) u =
      { u with report := (u.report.toList ++ reports).getLast? } := by
  induction reports using List.reverseRecOn with
  | nil =>
    obtain ⟨journal, wire, assembler, frameLimit, payloadLimit, interval, lastQuery, report⟩ := u
    cases report <;> rfl
  | append_singleton reports r ih =>
    rw [List.map_append, List.map_singleton, LineEnd.handleAll_append, ih, LineEnd.handleAll_singleton,
      lineEnd_handle, handle_report]
    simp [← List.append_assoc]

theorem Expects.read (h : u.Expects later pair) :
    (LineEnd.take (LineEnd.readChunk u).1 (LineEnd.readChunk u).2).Expects later pair := by
  obtain ⟨wide, reports, awaits, short, rfl⟩ := h
  let chunk := u.wire.inbound.take chunkBytes
  let v : MainUnit Port := { u with wire := { u.wire with inbound := u.wire.inbound.drop chunkBytes } }
  change (LineEnd.take chunk v).Expects later _
  have split : u.wire.inbound ++ later = chunk ++ (v.wire.inbound ++ later) := by
    rw [← List.append_assoc]
    exact congrArg (· ++ later) (List.take_append_drop chunkBytes _).symm
  rw [split] at awaits
  have lines : ∀ line ∈ reports.map Report.line, IsLine u.assembler.limit line := by
    intro line hline
    obtain ⟨r, hr, rfl⟩ := List.mem_map.1 hline
    exact isLine_frame ((short r hr).trans wide)
  obtain ⟨rest, all, fed, same⟩ := awaits.feed lines
  obtain ⟨done, left, rfl, handed, rfl⟩ := List.map_eq_append_iff.1 all
  have taken : LineEnd.take chunk v =
      { v with
        assembler := (u.assembler.feed chunk).2
        report := (u.report.toList ++ done).getLast? } := by
    have own : LineEnd.assembler v = u.assembler := rfl
    rw [LineEnd.take_eq, own, ← handed, handleAll_reports]
    rfl
  rw [taken]
  refine ⟨?_, left, fed, ?_, ?_⟩
  · exact same ▸ wide
  · intro r hr
    exact short r (List.mem_append_right done hr)
  · rw [← List.append_assoc]
    exact (lastPair_getLast? _ left).symm

theorem Expects.pump (h : u.Expects later pair) (budget : Nat) :
    (LineEnd.pump budget u).Expects later pair :=
  LineEnd.pump_induction (P := fun v : MainUnit Port => v.Expects later pair) (fun _ h => h.read) budget h

/-! ## Writing -/

theorem Expects.query (h : u.Expects later pair) : u.query.Expects later pair := by
  unfold MainUnit.query
  dsimp only
  split <;> exact h.of_same rfl rfl rfl

theorem Expects.tick (h : u.Expects later pair) : u.tick.Expects later pair := by
  have pumped : (LineEnd.pump pumpBudget u).look.Expects later pair := (h.pump pumpBudget).of_same rfl rfl rfl
  unfold MainUnit.tick
  dsimp only
  split
  · exact pumped.query
  · exact pumped

theorem Expects.publish (h : u.Expects later pair) (record : Record) :
    (u.publish record).2.Expects later pair := by
  have handed : (u.publishRecord record).2.Expects later pair := by
    unfold MainUnit.publishRecord
    split
    · exact h
    · exact h.of_same rfl rfl rfl
  unfold MainUnit.publish
  split
  · next v hv =>
    rw [hv] at handed
    exact handed
  · next v hv =>
    rw [hv] at handed
    exact handed

/-- The main unit knows what the last report says. -/
theorem connectivity_eq (u : MainUnit Port) :
    (u.connectivity.link, u.connectivity.broker) = lastPair u.report.toList := by
  unfold connectivity
  cases u.report <;> rfl

end MainUnit

/-! ## Both units -/

namespace Pair

variable {ρ β σ : Type} {p : Pair ρ β σ}

/-- The main unit is to hear what the companion holds to be reported. -/
structure Agrees (p : Pair ρ β σ) : Prop where
  expects : p.main.Expects p.companion.wire.outbound p.companion.reported
  wide : Settings.minFrameBytes ≤ p.companion.frameLimit

theorem agrees_join {main companion : Settings} (mainValid : main.validate = .ok ())
    (companionValid : companion.validate = .ok ()) (journal : Journal) (station : Station ρ β σ) :
    (join main companion journal station).Agrees :=
  ⟨MainUnit.expects_start mainValid journal, Settings.minFrameBytes_le companionValid⟩

/-- What the companion writes, the main unit is to hear. -/
theorem Agrees.tells (h : p.Agrees) {reports : List Report} {c : Companion Port ρ β σ}
    (told : Tells p.companion reports c) : Agrees { p with companion := c } := by
  refine ⟨?_, told.wide h.wide⟩
  have more := h.expects.more told.fit
  rwa [← told.sent, ← told.reported] at more

variable [Radio ρ] [Client β] [Storage σ]

theorem Agrees.perform (short : HasShortAddresses ρ) (h : p.Agrees) (act : Act ρ β σ) :
    (p.perform act).Agrees := by
  cases act with
  | mainInit => exact ⟨h.expects.query, h.wide⟩
  | mainTick => exact ⟨h.expects.tick, h.wide⟩
  | publish record => exact ⟨h.expects.publish record, h.wide⟩
  | companionTick =>
    obtain ⟨reports, told⟩ := Companion.tells_tick short h.wide
    exact h.tells told
  | console line => exact h.tells (Companion.tells_console line p.companion)
  | manage calls => exact h.tells ((Tells.refl p.companion).onStation calls)
  | surround radio client board =>
    exact h.tells ((Tells.refl p.companion).onStation (Pair.surround radio client board))
  | mainClock clock => exact ⟨h.expects.of_same rfl rfl rfl, h.wide⟩
  | deliverDown count => exact ⟨h.expects.of_same rfl rfl rfl, h.wide⟩
  | deliverUp count =>
    refine ⟨h.expects.of_same rfl rfl ?_, h.wide⟩
    change p.main.wire.inbound ++ p.companion.wire.outbound.take count ++
      p.companion.wire.outbound.drop count = _
    rw [List.append_assoc, List.take_append_drop]

theorem Agrees.run (short : HasShortAddresses ρ) (h : p.Agrees) (acts : List (Act ρ β σ)) :
    (p.run acts).Agrees := by
  induction acts generalizing p with
  | nil => exact h
  | cons act acts ih => exact ih (h.perform short act)

/-- After a tick of the companion, what it holds to be reported is its connectivity for as long as it does
nothing and nobody calls its managers. -/
theorem settled_run {acts : List (Act ρ β σ)} (idle : ∀ act ∈ acts, act.isCompanion = false)
    (h : p.companion.reported = p.companion.pair) :
    (p.run acts).companion.reported = (p.run acts).companion.pair := by
  induction acts generalizing p with
  | nil => exact h
  | cons act acts ih =>
    refine ih (p := p.perform act) (fun a ha => idle a (List.mem_cons_of_mem act ha)) ?_
    have still := idle act List.mem_cons_self
    cases act with
    | companionTick | console line | manage calls => cases still
    | mainInit | mainTick | publish record | surround radio client board | mainClock clock
    | deliverDown count | deliverUp count => exact h

/-- The bytes on their way are reports, and what the last of them says, or the one that the main unit has if
there are none, is what the companion holds to be reported. So when all bytes have arrived after a tick of
the companion, the main unit has its connectivity. -/
theorem run_agrees (short : HasShortAddresses ρ) {main companion : Settings}
    (mainValid : main.validate = .ok ()) (companionValid : companion.validate = .ok ())
    (journal : Journal) (station : Station ρ β σ) (acts : List (Act ρ β σ)) :
    let p := (join main companion journal station).run acts
    (∃ reports : List Report, p.inFlight = stream (reports.map Report.line) ∧
      p.companion.reported = lastPair (p.main.report.toList ++ reports)) ∧
    ∀ before after, acts = before ++ .companionTick :: after →
      (∀ act ∈ after, act.isCompanion = false) →
      p.main.wire.inbound = [] → p.companion.wire.outbound = [] →
      p.main.connectivity.link = p.companion.link.isConnected ∧
        p.main.connectivity.broker = p.companion.broker.isConnected := by
  intro p
  have agrees : p.Agrees := (agrees_join mainValid companionValid journal station).run short acts
  obtain ⟨reports, awaits, -, said⟩ := agrees.expects.pending
  constructor
  · refine ⟨reports, ?_, said⟩
    rw [← awaits.stream, inFlight, List.append_assoc]
  · intro before after order idle arrived sent
    rw [arrived, sent] at awaits
    have nothing : reports = [] := List.map_eq_nil_iff.1 awaits.handed
    have settled : p.companion.reported = p.companion.pair := by
      have ticked : p =
          (((join main companion journal station).run before).perform .companionTick).run after := by
        change run acts _ = _
        rw [order, run_append, run_cons]
      rw [ticked]
      exact settled_run idle (Companion.reported_tick _)
    have known : lastPair p.main.report.toList = p.companion.pair := by
      rw [← settled, said, nothing, List.append_nil]
    exact Prod.mk.inj ((MainUnit.connectivity_eq p.main).trans known)

/-! ## A run -/

namespace Sample

/-- A radio that has the one address. -/
structure FixedRadio where
  connected : Bool := false
  deriving DecidableEq, Repr

instance : Radio FixedRadio where
  associate _ _ r := (.ok (), r)
  isConnected r := r.connected
  disconnect _ _ := {}
  address r := if r.connected then some "192.168.1.50" else none
  signal _ := -60

def board : Board Store.Flash := { now := 0, store := {} }

def station : Station FixedRadio Bench.Client Store.Flash := .start {} false {} {} board

/-- The link goes up between two reports, the first of which arrives in two parts. -/
def acts : List (Act FixedRadio Bench.Client Store.Flash) :=
  [ .console "wifi ssid=home pass=secret01",
    .mainInit,
    .deliverDown 100,
    .companionTick,
    .deliverUp 10,
    .mainTick,
    .surround { connected := true } {} board,
    .companionTick,
    .deliverUp 200,
    .mainTick ]

theorem hasShortAddresses : HasShortAddresses FixedRadio := by
  intro radio address h
  change (if radio.connected then some "192.168.1.50" else none) = some address at h
  split at h
  · cases h
    exact ⟨by decide, by simp⟩
  · cases h

theorem arrived :
    let p := (join {} {} { now := 0 } station).run acts
    p.companion.link.isConnected = true ∧ p.main.wire.inbound = [] ∧
      p.companion.wire.outbound = [] := by
  decide +kernel

/-- The main unit learns that the link is up. -/
theorem link_learned :
    ((join {} {} { now := 0 } station).run acts).main.connectivity.link = true := by
  obtain ⟨up, inbound, outbound⟩ := arrived
  have valid : ({} : Settings).validate = .ok () := rfl
  have agreed := run_agrees hasShortAddresses valid valid { now := 0 } station acts
  have last : acts = acts.take 7 ++ .companionTick :: [.deliverUp 200, .mainTick] := rfl
  have known := agreed.2 _ _ last (by decide) inbound outbound
  exact known.1.trans up

end Sample

end Pair

end Relay
end Telemetry
