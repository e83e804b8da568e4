import Telemetry.Proofs.Relay.Hop

/-!
# Handing a record over

The main unit prints a record, reads the payload back and prints it again inside a frame. A payload that is read back
is printed as it was, so what is written is the payload between two fixed pieces of text. Three things can keep the main
unit from writing it: the payload is too long, it is nested too deeply to be read back, or the frame is too long.
-/

namespace Telemetry

namespace Json

/-- How a value is held: the fields of each object are sorted, and each integer is one that is kept exactly. -/
structure IsHeld (v : Json) : Prop where
  sorted : v.IsSorted
  exact : v.IsExact

theorem part_insert {w v : Json} {k : String} {fields : List (String × Json)}
    (h : Part w (.object (Dict.insert k v fields))) :
    w = .object (Dict.insert k v fields) ∨ Part w v ∨ Part w (.object fields) := by
  cases h with
  | whole => exact .inl rfl
  | field mem part =>
    obtain same | mem := Dict.mem_insert mem
    · obtain ⟨rfl, rfl⟩ := Prod.mk.inj same
      exact .inr (.inl part)
    · exact .inr (.inr (.field mem part))

variable {fields : List (String × Json)}

/-- A field that takes the number of an item. -/
theorem IsIntegral.insert (h : (Json.object fields).IsIntegral) (k : String) (id : UInt32) :
    (Json.object (Dict.insert k (ofNat id.toNat) fields)).IsIntegral := by
  intro n hn
  obtain whole | part | part := part_insert hn
  · cases whole
  · cases part
    exact ⟨_, rfl⟩
  · exact h n part

theorem IsHeld.insert (h : (Json.object fields).IsHeld) (k : String) (id : UInt32) :
    (Json.object (Dict.insert k (ofNat id.toNat) fields)).IsHeld := by
  refine ⟨?_, ?_⟩
  · intro inner hi
    obtain whole | part | part := part_insert hi
    · obtain rfl := Json.object.inj whole
      exact (h.sorted fields .whole).insert k _
    · cases part
    · exact h.sorted inner part
  · intro i hi
    obtain whole | part | part := part_insert hi
    · cases whole
    · cases part
      have small := id.toNat_lt
      unfold Number.IsExact
      omega
    · exact h.exact i part

/-- A container that is printed is read back as it is held, unless it is nested too deeply. -/
theorem IsHeld.read?_render {v : Json} (h : v.IsHeld) (integral : v.IsIntegral) (hn : ∀ n, v ≠ .number n) :
    read? v.render = if v.depth ≤ maxDepth then some v else none := by
  rw [read?, readWith_render _ hn (integral.isFaithful h.exact), gathered_of_isSorted v h.sorted]

end Json

namespace Relay

/-! ## The line -/

/-- The line that hands a payload over. -/
def handoverLine (payload : String) : String := "\x7b\"cmd\":\"pub\",\"data\":" ++ payload ++ "\x7d"

theorem length_handoverLine (payload : String) :
    (Text.utf8 (handoverLine payload)).length = (Text.utf8 payload).length + 21 := by
  have front : ("\x7b\"cmd\":\"pub\",\"data\":").utf8ByteSize = 20 := rfl
  have back : ("\x7d").utf8ByteSize = 1 := rfl
  unfold handoverLine
  rw [Text.length_utf8, Text.length_utf8, String.utf8ByteSize_append, String.utf8ByteSize_append]
  omega

theorem render_publish (data : Json) : (Frame.publish data).json.render = handoverLine data.render := by
  have front : "\x7b\"cmd\":\"pub\",\"data\":".toList =
      '\x7b' :: (Json.stringChars "cmd" ++ ':' :: Json.stringChars "pub" ++ ',' :: Json.stringChars "data") ++ [':'] := by
    cbv
  have back : ("\x7d").toList = ['\x7d'] := by cbv
  apply String.toList_injective
  unfold handoverLine
  rw [String.toList_append, String.toList_append, front, back, Json.render, Json.render,
    String.toList_ofList, String.toList_ofList]
  simp [Frame.json, Json.chars, Json.fieldChars]

namespace MainUnit

variable {ω : Type} {u : MainUnit ω} {r : Record} {v : Json}

/-- A payload that the main unit writes a line for: it is within the limits, and at most 127 containers lie in one
another. -/
structure Admits (u : MainUnit ω) (payload : Json) : Prop where
  short : (Text.utf8 payload.render).length ≤ u.payloadLimit
  shallow : payload.depth ≤ 127
  framed : (Text.utf8 payload.render).length + 21 ≤ u.frameLimit

theorem publishLine_iff_admits (hv : r.json? = some v) (held : v.IsHeld) (integral : v.IsIntegral)
    (container : ∀ n, v ≠ .number n) {line : String} :
    u.publishLine r = .ok line ↔ u.Admits v ∧ line = handoverLine v.render := by
  have read := held.read?_render integral container
  by_cases shallow : v.depth ≤ 127
  · rw [publishLine_iff hv (read.trans (if_pos shallow)), Frame.encode_iff, render_publish, length_handoverLine]
    refine ⟨?_, ?_⟩
    · rintro ⟨short, rfl, framed⟩
      exact ⟨⟨short, shallow, framed⟩, rfl⟩
    · rintro ⟨admits, rfl⟩
      exact ⟨admits.short, rfl, admits.framed⟩
  · have unread : Json.read? v.render = none := read.trans (if_neg shallow)
    refine ⟨?_, fun h => absurd h.1.shallow shallow⟩
    intro made
    unfold publishLine at made
    cases encoded : r.encode u.payloadLimit with
    | error e =>
      rw [encoded] at made
      cases made
    | ok payload =>
      obtain ⟨rfl, -⟩ := (Record.encode_iff hv).1 encoded
      rw [encoded] at made
      change (readBack v.render >>= fun data => (Frame.publish data).encode u.frameLimit) = _ at made
      rw [readBack, unread] at made
      cases made

variable [Wire ω]

theorem publish_of_line {line : String} (made : u.publishLine r = .ok line) :
    u.publish r =
      (if Transport.accepted (Wire.writeLine line u.wire).1 then .success else .dropped, (u.write line).2) := by
  have answered : (Wire.writeLine line u.wire).1 = (u.write line).1 := rfl
  unfold publish publishRecord
  rw [made, answered]
  dsimp only
  cases (u.write line).1 <;> rfl

theorem publish_of_no_line {e : Failure} (made : u.publishLine r = .error e) : u.publish r = (.dropped, u) := by
  unfold publish publishRecord
  rw [made]

/-- A record with integers only is handed over exactly if its payload is admitted and the wire takes the line, which is
the payload itself between two fixed pieces of text. A payload that is not admitted does not get to the wire. Whatever
happens, the report that is kept, the bytes of an unfinished line and the time of the last query stay as they are. -/
theorem publish_iff_admits (u : MainUnit ω) (id : UInt32) {fields : List (String × Json)}
    (held : (Json.object fields).IsHeld) (integral : (Json.object fields).IsIntegral) :
    ∃ payload, (Record.object id fields).json? = some payload ∧
      let line := handoverLine payload.render
      let answer := Wire.writeLine line u.wire
      let published := u.publish (.object id fields)
      (published.1 = .success ↔ u.Admits payload ∧ Transport.accepted answer.1 = true) ∧
      (u.Admits payload → published.2 =
        { u with wire := answer.2, trace := u.trace ++ [.mainLine line (Transport.accepted answer.1)] }) ∧
      (¬ u.Admits payload → published.2 = u) ∧
      published.2.report = u.report ∧ published.2.assembler = u.assembler ∧
        published.2.lastQuery = u.lastQuery := by
  let payload : Json := .object (Dict.insert Record.idKey (Json.ofNat id.toNat) fields)
  refine ⟨payload, rfl, ?_⟩
  intro line answer published
  have made : ∀ line, u.publishLine (.object id fields) = .ok line ↔
      u.Admits payload ∧ line = handoverLine payload.render := fun _ =>
    publishLine_iff_admits rfl (held.insert Record.idKey id) (integral.insert Record.idKey id) nofun
  cases handed : u.publishLine (.object id fields) with
  | ok written =>
    obtain ⟨admits, rfl⟩ := (made written).1 handed
    have result := publish_of_line handed
    refine ⟨?_, ?_, fun refused => absurd admits refused, ?_⟩
    · rw [show published.1 = _ from congrArg Prod.fst result, and_iff_right admits]
      cases Transport.accepted answer.1 <;> simp
    · exact fun _ => congrArg Prod.snd result
    · rw [show published.2 = _ from congrArg Prod.snd result]
      exact ⟨rfl, rfl, rfl⟩
  | error e =>
    have refused : ¬ u.Admits payload := by
      intro admits
      rw [(made line).2 ⟨admits, rfl⟩] at handed
      cases handed
    have result : published = (.dropped, u) := publish_of_no_line handed
    rw [result]
    refine ⟨?_, fun admits => absurd admits refused, fun _ => rfl, rfl, rfl, rfl⟩
    exact ⟨nofun, fun h => absurd h.1 refused⟩

end MainUnit

/-! ## A record that just fits -/

namespace Tight

def fields : List (String × Json) := [("b", .array [.number (.int (-5))])]

/-- The payload of the record has 22 bytes, and its frame 43. -/
def unit : MainUnit Bench.Wire :=
  { now := 0, wire := {}, assembler := .ofLimit 43, frameLimit := 43, payloadLimit := 22, interval := 0 }

theorem part_fields {w : Json} (h : Json.Part w (.object fields)) :
    w = .object fields ∨ w = .array [.number (.int (-5))] ∨ w = .number (.int (-5)) := by
  cases h with
  | whole => exact .inl rfl
  | field mem part =>
    obtain ⟨-, rfl⟩ := Prod.mk.inj (List.mem_singleton.1 mem)
    cases part with
    | whole => exact .inr (.inl rfl)
    | item mem part =>
      rw [List.mem_singleton.1 mem] at part
      cases part
      exact .inr (.inr rfl)

theorem isHeld : (Json.object fields).IsHeld := by
  refine ⟨?_, ?_⟩
  · intro inner hi
    obtain h | h | h := part_fields hi
    · cases h
      exact List.pairwise_singleton _ _
    · cases h
    · cases h
  · intro i hi
    obtain h | h | h := part_fields hi
    · cases h
    · cases h
    · cases h
      decide

theorem isIntegral : (Json.object fields).IsIntegral := by
  intro n hn
  obtain h | h | h := part_fields hn
  · cases h
  · cases h
  · cases h
    exact ⟨-5, rfl⟩

theorem handed_over : (unit.publish (.object 7 fields)).1 = .success ∧
    (unit.publish (.object 7 fields)).2.wire.written =
      ["\x7b\"cmd\":\"pub\",\"data\":\x7b\"b\":[-5],\"item_id\":7\x7d\x7d"] := by
  obtain ⟨payload, encoded, success, written, -⟩ := MainUnit.publish_iff_admits unit 7 isHeld isIntegral
  cases encoded
  have admits : unit.Admits (.object (Dict.insert Record.idKey (Json.ofNat (7 : UInt32).toNat) fields)) :=
    ⟨by decide +kernel, by decide +kernel, by decide +kernel⟩
  have line : handoverLine (Json.object (Dict.insert Record.idKey (Json.ofNat (7 : UInt32).toNat) fields)).render =
      "\x7b\"cmd\":\"pub\",\"data\":\x7b\"b\":[-5],\"item_id\":7\x7d\x7d" := by decide +kernel
  have wire := congrArg (·.wire.written) (written admits)
  exact ⟨success.2 ⟨admits, rfl⟩, wire.trans (congrArg ([·]) line)⟩

end Tight

end Relay

end Telemetry
