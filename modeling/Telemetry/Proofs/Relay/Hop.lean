import Telemetry.Bench.Equipment
import Telemetry.Proofs.Broker.Effect
import Telemetry.Proofs.Broker.Standing
import Telemetry.Proofs.Relay.Frames
import Telemetry.Proofs.Relay.Lines

/-!
# From the main unit to the broker

A record that the main unit hands over goes through a payload, a frame, a line and a frame again before the
companion publishes it. The companion then does what it would do with the record itself, unless the record
is nested so deeply that the frame around it is refused.
-/

namespace Telemetry

/-- The messages handed to the client since then. -/
def Event.sentSince (before after : List Event) : List (Transport.Message × Bool) :=
  Event.sends (after.drop before.length)

/-! ## Records that were read -/

namespace Record

theorem ofNat_of_uint32? {v : Json} {id : UInt32} (h : v.uint32? = some id) :
    v = Json.ofNat id.toNat := by
  unfold Json.uint32? Json.int? at h
  split at h
  · next n hn =>
    split at hn
    · cases hn
      split at h
      · next range =>
        cases h
        have exact_ : (UInt32.ofNat n.toNat).toNat = n.toNat := by
          rw [UInt32.toNat_ofNat', Nat.mod_eq_of_lt (by omega)]
        rw [Json.ofNat, exact_, Int.toNat_of_nonneg range.1]
      · cases h
    · cases hn
  · cases h

/-- A record that describes a sorted object is put back into JSON as that object. -/
theorem json?_of_ofJson {v : Json} {r : Record} (h : ofJson v = .ok r) (hs : v.IsSorted) :
    r.json? = some v ∧ Relay.Companion.itemId v = r.id ∧ ∃ fields, v = .object fields := by
  unfold ofJson at h
  split at h
  · next fields =>
    split at h
    · next id hid =>
      cases h
      obtain ⟨w, found, hw⟩ := Option.bind_eq_some_iff.1 hid
      refine ⟨?_, ?_, fields, rfl⟩
      · rw [json?, Dict.insert_of_find? (hs fields .whole) (ofNat_of_uint32? hw ▸ found)]
      · rw [Relay.Companion.itemId, Json.field?, hid]
        rfl
    · cases h
  · cases h

theorem encode_iff {limit : Nat} {r : Record} {v : Json} {payload : String} (hv : r.json? = some v) :
    r.encode limit = .ok payload ↔ payload = v.render ∧ (Text.utf8 v.render).length ≤ limit := by
  rw [encode, hv, Text.length_utf8]
  dsimp only
  split
  · next large =>
    refine ⟨fun h => (by cases h), ?_⟩
    rintro ⟨-, small⟩
    exact absurd large (Nat.not_lt.2 small)
  · next small =>
    refine ⟨?_, ?_⟩
    · rintro ⟨⟩
      exact ⟨rfl, Nat.le_of_not_lt small⟩
    · rintro ⟨rfl, -⟩
      rfl

end Record

namespace Relay

/-! ## The main unit -/

namespace MainUnit

variable {ω : Type}

theorem publish_success [Wire ω] {u : MainUnit ω} {r : Record} (h : (u.publish r).1 = .success) :
    ∃ line, u.publishLine r = .ok line ∧
      (u.publish r).2.trace = u.trace ++ [.mainLine line true] := by
  unfold publish publishRecord at h ⊢
  cases hl : u.publishLine r with
  | error e => simp [hl] at h
  | ok line =>
    refine ⟨line, rfl, ?_⟩
    cases hw : (u.write line).1 with
    | error e => simp [hl, hw, Except.mapError] at h
    | ok done =>
      have took : Transport.accepted (Wire.writeLine line u.wire).1 = true := by
        change Transport.accepted (u.write line).1 = true
        rw [hw]
        rfl
      dsimp only
      rw [hw]
      change u.trace ++ [.mainLine line (Transport.accepted (Wire.writeLine line u.wire).1)] = _
      rw [took]

/-- The line of a record whose payload is read back. -/
theorem publishLine_iff {u : MainUnit ω} {r : Record} {v : Json} {line : String}
    (hv : r.json? = some v) (reread : Json.read? v.render = some v) :
    u.publishLine r = .ok line ↔ (Text.utf8 v.render).length ≤ u.payloadLimit ∧
      (Frame.publish v).encode u.frameLimit = .ok line := by
  unfold publishLine
  cases encoded : r.encode u.payloadLimit with
  | error e =>
    refine ⟨fun h => (by cases h), ?_⟩
    rintro ⟨small, -⟩
    rw [(Record.encode_iff hv).2 ⟨rfl, small⟩] at encoded
    cases encoded
  | ok payload =>
    obtain ⟨rfl, small⟩ := (Record.encode_iff hv).1 encoded
    change (readBack v.render >>= fun data => (Frame.publish data).encode u.frameLimit) = _ ↔ _
    rw [readBack, reread]
    exact (and_iff_right small).symm

end MainUnit

/-! ## The companion -/

theorem sentSince_publish {β σ : Type} [Client β] {b : Broker β σ} {payload : List UInt8}
    (on : b.enabled = true) (connected : b.isConnected = true)
    (small : payload.length ≤ b.settings.maxPayloadBytes) (id : UInt32) (topic : String)
    (accepts : Transport.accepted
      (Client.publish { topic, payload, retain := true } b.client).1 = true) :
    Event.sentSince b.trace (b.publish id topic payload).2.trace =
      [({ topic, payload, retain := true }, true)] := by
  let m : Transport.Message := { topic, payload, retain := true }
  have sent : b.deliver id topic payload = (.success, (b.send m).2) := by
    have open_ : ¬(!b.enabled || decide (b.settings.maxPayloadBytes < payload.length)) = true := by
      simpa [on] using small
    rw [Broker.deliver, if_neg open_, if_pos connected]
    exact if_pos accepts
  have trace : (b.send m).2.trace = b.trace ++ [.send m true] := by
    change b.trace ++ [.send m (Transport.accepted (Client.publish m b.client).1)] = _
    rw [accepts]
  rw [Broker.publish, sent]
  unfold Broker.report Event.sentSince
  split
  · change Event.sends (((b.send m).2.trace ++ [Event.report id .success]).drop b.trace.length) = _
    rw [trace, List.append_assoc, List.drop_left]
    rfl
  · change Event.sends ((b.send m).2.trace.drop b.trace.length) = _
    rw [trace, List.drop_left]
    rfl

namespace Companion

variable {ω ρ β σ : Type} [Client β]

/-- A record in a frame is published as the record itself would be. -/
theorem publishData_eq {c : Companion ω ρ β σ} {r : Record} {v : Json}
    (id : itemId v = r.id) (encoded : r.encode c.broker.settings.maxPayloadBytes = .ok v.render) :
    (c.publishData v).2.toStation = (c.toStation.publish r).2 := by
  have same : c.broker.publish (itemId v) (c.broker.topics.item (itemId v)) (Text.utf8 v.render) =
      c.broker.publishRecord r := by
    rw [Broker.publishRecord, encoded, id]
  exact congrArg (fun answer => c.toStation.withBroker answer.2) same

/-- A connected companion whose client accepts sends a record at once. -/
theorem sentSince_direct {c : Companion ω ρ β σ} {r : Record} {v : Json}
    (encoded : r.encode c.broker.settings.maxPayloadBytes = .ok v.render)
    (small : (Text.utf8 v.render).length ≤ c.broker.settings.maxPayloadBytes)
    (on : c.broker.enabled = true) (connected : c.broker.isConnected = true)
    (accepts : ∀ m, Transport.accepted (Client.publish m c.broker.client).1 = true) :
    Event.sentSince c.trace (c.toStation.publish r).2.trace =
      [({ topic := c.broker.topics.item r.id, payload := Text.utf8 v.render, retain := true }, true)] := by
  have same : c.broker.publishRecord r =
      c.broker.publish r.id (c.broker.topics.item r.id) (Text.utf8 v.render) := by
    rw [Broker.publishRecord, encoded]
  have trace : (c.toStation.publish r).2.trace =
      (c.broker.publish r.id (c.broker.topics.item r.id) (Text.utf8 v.render)).2.trace :=
    congrArg (fun answer => answer.2.trace) same
  rw [trace]
  exact sentSince_publish on connected small r.id (c.broker.topics.item r.id) (accepts _)

variable [Wire ω] [Radio ρ]

theorem handle_publish {c : Companion ω ρ β σ} {fields : List (String × Json)}
    (hs : (Json.object fields).IsSorted) (hf : (Json.object fields).IsFaithful) :
    handle (Frame.publish (.object fields)).json.render c =
      if (Json.object fields).depth < Json.maxDepth then (c.publishData (.object fields)).2 else c := by
  rw [handle, Frame.parse_publish hs hf]
  by_cases shallow : (Json.object fields).depth < Json.maxDepth
  · rw [if_pos shallow, if_pos shallow]
  · rw [if_neg shallow, if_neg shallow]

theorem trace_withAssembler (a : Assembler) (c : Companion ω ρ β σ) :
    (LineEnd.withAssembler a c).trace = c.trace := rfl

/-- A line that comes in, in any chunks, is handled once it is complete. -/
theorem trace_take_line {c : Companion ω ρ β σ} {limit : Nat} {line : String}
    (fresh : c.assembler = .ofLimit limit) (h : IsLine limit line) {chunks : List (List UInt8)}
    (flat : chunks.flatten = Text.utf8 line ++ [Assembler.newline]) :
    (chunks.foldl (fun c chunk => LineEnd.take chunk c) c).trace = (handle line c).trace := by
  have own : LineEnd.assembler c = .ofLimit limit := fresh
  rw [LineEnd.foldl_take, flat, LineEnd.take_eq, own, Assembler.feed_line h]
  rw [trace_withAssembler, LineEnd.handleAll_singleton, lineEnd_handle]

end Companion

/-! ## Both units -/

/-- A record that the main unit has handed over is published by the companion as it would be published
without a main unit, if one more container may be opened around it. Else nothing is published. The record
was read from a text and has only integers, both units use the same settings, the companion is connected,
its client accepts, and the line reaches it in any chunks. -/
theorem relayed_iff_depth_lt {ω ω' ρ β σ : Type} [Wire ω] [Wire ω'] [Radio ρ] [Client β] [Storage σ]
    {settings : Settings} {text : String} {v : Json} {r : Record}
    (read : Json.read? text = some v) (whole : v.IsIntegral) (made : Record.ofJson v = .ok r)
    {u : MainUnit ω'} (frames : u.frameLimit = settings.relay.maxFrameBytes)
    (payloads : u.payloadLimit = settings.broker.maxPayloadBytes)
    (success : (u.publish r).1 = .success)
    {c : Companion ω ρ β σ} (fresh : c.assembler = .ofLimit settings.relay.maxFrameBytes)
    (reached : ∃ watched client board steps, c.broker = Broker.run steps
      (Broker.load settings.broker settings.device.id watched client board))
    (connected : c.broker.isConnected = true)
    (accepts : ∀ m, Transport.accepted (Client.publish m c.broker.client).1 = true) :
    let m : Transport.Message :=
      { topic := settings.topics.item r.id, payload := Text.utf8 v.render, retain := true }
    let direct := Event.sentSince c.trace (c.toStation.publish r).2.trace
    direct = [(m, true)] ∧
      ∃ line, (u.publish r).2.trace = u.trace ++ [.mainLine line true] ∧
        ∀ chunks : List (List UInt8), chunks.flatten = Text.utf8 line ++ [Assembler.newline] →
          let relayed := Event.sentSince c.trace
            (chunks.foldl (fun c chunk => LineEnd.take chunk c) c).trace
          (relayed = direct ↔ v.depth < Json.maxDepth) ∧
            (¬ v.depth < Json.maxDepth → relayed = []) := by
  intro m direct
  have accepted := Json.isRead_of_read? read
  obtain ⟨hv, id, fields, rfl⟩ := Record.json?_of_ofJson made accepted.sorted
  have reread := Json.read?_render read whole nofun
  obtain ⟨line, handed, trace⟩ := MainUnit.publish_success success
  obtain ⟨small, framed⟩ := (MainUnit.publishLine_iff hv reread).1 handed
  obtain ⟨rfl, short⟩ := Frame.encode_iff.1 framed
  obtain ⟨watched, client, board, steps, reached⟩ := reached
  have standing : Broker.Standing settings.broker settings.topics c.broker := by
    rw [reached]
    exact (Broker.standing_load settings.broker settings.device.id watched client board).run steps
  have on : c.broker.enabled = true := by
    have status : c.broker.status = .connected := Status.isConnected_iff.1 connected
    exact standing.active (by rw [status]; rfl)
  rw [payloads, ← standing.settings] at small
  have encoded := (Record.encode_iff hv).2 ⟨rfl, small⟩
  have sent : direct = [(m, true)] := by
    have once := Companion.sentSince_direct encoded small on connected accepts
    rwa [standing.topics] at once
  refine ⟨sent, _, trace, ?_⟩
  intro chunks flat relayed
  -- The companion takes the frame in as one line, and publishes what it holds unless it is refused.
  have taken : relayed =
      Event.sentSince c.trace (Companion.handle (Frame.publish (.object fields)).json.render c).trace :=
    congrArg (Event.sentSince c.trace)
      (Companion.trace_take_line fresh (isLine_frame (frames ▸ short)) flat)
  rw [Companion.handle_publish accepted.sorted (whole.isFaithful accepted.exact)] at taken
  by_cases shallow : (Json.object fields).depth < Json.maxDepth
  · rw [if_pos shallow] at taken
    have same : relayed = direct :=
      taken.trans (congrArg (fun s : Station ρ β σ => Event.sentSince c.trace s.trace)
        (Companion.publishData_eq id encoded))
    exact ⟨⟨fun _ => shallow, fun _ => same⟩, fun deep => absurd shallow deep⟩
  · rw [if_neg shallow, Event.sentSince, List.drop_length] at taken
    have nothing : relayed = [] := taken
    refine ⟨⟨fun same => ?_, fun deep => absurd deep shallow⟩, fun _ => nothing⟩
    rw [nothing, sent] at same
    cases same

/-! ## A record at the limit -/

namespace Sample

/-- So many arrays in one another, around an empty one. -/
def nested : Nat → Json
  | 0 => .array []
  | n + 1 => .array [nested n]

def fields (n : Nat) : List (String × Json) := [("a", nested n), ("item_id", .number (.int 1))]

theorem part_nested {w : Json} (n : Nat) (h : Json.Part w (nested n)) : ∃ items, w = .array items := by
  induction n with
  | zero =>
    cases h with
    | whole => exact ⟨[], rfl⟩
    | item mem part => cases mem
  | succ n ih =>
    cases h with
    | whole => exact ⟨[nested n], rfl⟩
    | item mem part =>
      rw [List.mem_singleton.1 mem] at part
      exact ih part

theorem part_object {w : Json} {n : Nat} (h : Json.Part w (.object (fields n))) :
    w = .object (fields n) ∨ w = .number (.int 1) ∨ ∃ items, w = .array items := by
  cases h with
  | whole => exact .inl rfl
  | field mem part =>
    simp only [fields, List.mem_cons, Prod.mk.injEq, List.not_mem_nil, or_false] at mem
    obtain ⟨-, rfl⟩ | ⟨-, rfl⟩ := mem
    · exact .inr (.inr (part_nested n part))
    · cases part
      exact .inr (.inl rfl)

theorem isIntegral (n : Nat) : (Json.object (fields n)).IsIntegral := by
  intro x hx
  obtain h | h | ⟨items, h⟩ := part_object hx
  · cases h
  · cases h
    exact ⟨1, rfl⟩
  · cases h

theorem isExact (n : Nat) : (Json.object (fields n)).IsExact := by
  intro i hi
  obtain h | h | ⟨items, h⟩ := part_object hi
  · cases h
  · cases h
    decide
  · cases h

theorem isSorted (n : Nat) : (Json.object (fields n)).IsSorted := by
  intro inner hi
  obtain h | h | ⟨items, h⟩ := part_object hi
  · cases h
    have keys : "a" < "item_id" := by decide
    exact List.pairwise_pair.2 keys
  · cases h
  · cases h

theorem read?_render {n : Nat} (h : (Json.object (fields n)).depth ≤ Json.maxDepth) :
    Json.read? (Json.object (fields n)).render = some (.object (fields n)) := by
  have faithful := (isIntegral n).isFaithful (isExact n)
  rw [Json.read?, Json.readWith_render _ (fun _ hn => by cases hn) faithful, if_pos h,
    Json.gathered_of_isSorted _ (isSorted n)]

theorem ofJson (n : Nat) : Record.ofJson (.object (fields n)) = .ok (.object 1 (fields n)) := rfl

def main : MainUnit Bench.Wire := .start {} {} { now := 0 }

/-- Set up, turned on, and found with a session that stands. -/
def steps : List (Broker.Step Bench.Client Store.Flash) :=
  [ { client := {}, board := { now := 0, store := {} }, op := .setEndpoint "b" 1883 none none },
    { client := {}, board := { now := 0, store := {} }, op := .enable true },
    { client := { connected := true }, board := { now := 0, store := {} }, op := .tick true } ]

def broker : Broker Bench.Client Store.Flash :=
  Broker.run steps (Broker.load {} "uplink-0001" false {} { now := 0, store := {} })

def companion : Companion Bench.Wire Bench.Radio Bench.Client Store.Flash :=
  .start {} {}
    { broker.toBoard with
      linkState := (Link.load {} false {} broker.toBoard).toState
      brokerState := broker.toState }

theorem reached : companion.broker = Broker.run steps
    (Broker.load ({} : Settings).broker ({} : Settings).device.id false {} { now := 0, store := {} }) :=
  rfl

theorem connected : companion.broker.isConnected = true := by decide +kernel

theorem accepts (m : Transport.Message) :
    Transport.accepted (Client.publish m companion.broker.client).1 = true := rfl

theorem depth : (Json.object (fields 125)).depth = Json.maxDepth := by decide +kernel

theorem success : (main.publish (.object 1 (fields 125))).1 = .success := by
  have sorted := isSorted 125
  obtain ⟨hv, -⟩ := Record.json?_of_ofJson (ofJson 125) sorted
  have small : (Text.utf8 (Json.object (fields 125)).render).length ≤ main.payloadLimit := by
    decide +kernel
  have short : (Text.utf8 (Frame.publish (.object (fields 125))).json.render).length ≤
      main.frameLimit := by
    decide +kernel
  have line := (MainUnit.publishLine_iff hv (read?_render depth.le)).2
    ⟨small, Frame.encode_iff.2 ⟨rfl, short⟩⟩
  rw [MainUnit.publish, MainUnit.publishRecord, line]
  rfl

/-- The main unit counts the record as delivered, the companion itself would send it, and it is lost. -/
theorem relayed_nothing :
    (main.publish (.object 1 (fields 125))).1 = .success ∧
      Event.sentSince companion.trace (companion.toStation.publish (.object 1 (fields 125))).2.trace ≠
        [] ∧
      ∃ line, (main.publish (.object 1 (fields 125))).2.trace = main.trace ++ [.mainLine line true] ∧
        Event.sentSince companion.trace
          (LineEnd.take (Text.utf8 line ++ [Assembler.newline]) companion).trace = [] := by
  have frames : main.frameLimit = ({} : Settings).relay.maxFrameBytes := rfl
  obtain ⟨direct, line, trace, relayed⟩ :=
    relayed_iff_depth_lt (read?_render depth.le) (isIntegral 125) (ofJson 125) frames rfl success
      (c := companion) rfl ⟨false, {}, _, steps, reached⟩ connected accepts
  refine ⟨success, ?_, line, trace, ?_⟩
  · rw [direct]
    nofun
  · exact (relayed [Text.utf8 line ++ [Assembler.newline]] (by simp)).2 depth.not_lt

end Sample

end Relay
end Telemetry
