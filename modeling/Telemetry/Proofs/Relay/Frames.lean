import Telemetry.Proofs.Json.Accepted
import Telemetry.Proofs.Json.Embedded
import Telemetry.Proofs.Json.Printed
import Telemetry.Relay.Frame

/-!
# Frames on the wire

A frame is an object printed on one line, and parsing the line gives the frame back. A record that is
sent stands one container deeper in its frame than on its own, so the deepest records that can be read
are refused in a frame.
-/

namespace Telemetry.Relay.Frame

/-- The fields of a frame in the order in which they are written. -/
def fields : Frame → List (String × Json)
  | publish data => [("cmd", .string "pub"), ("data", data)]
  | query => [("cmd", .string "status")]
  | report r =>
    [("status", .string r.status), ("wifi", .bool r.link), ("mqtt", .bool r.broker)] ++
      match r.address with
      | some a => [("ip", .string a)]
      | none => []

theorem json_eq (f : Frame) : f.json = .object f.fields := by
  cases f <;> rfl

/-- A frame has no control character, so it is one line. -/
theorem printed_render (f : Frame) : ∀ b ∈ Text.utf8 f.json.render, 0x20 ≤ b.toNat :=
  Json.isPrinted_render f.json

theorem isJson_render (f : Frame) : Json.isJson (Text.utf8 f.json.render) = true := by
  refine Json.isJson_render fun n hn => ?_
  rw [json_eq] at hn
  cases hn

/-- A frame behind anything that begins with a brace does not make JSON. -/
theorem not_isJson_append (f : Frame) (garbage : List UInt8) :
    Json.isJson (123 :: garbage ++ Text.utf8 f.json.render) = false := by
  rw [json_eq]
  cases f with
  | publish data | query => exact Json.not_isJson_append (k := "cmd") rfl (by decide) _ _ garbage
  | report r => exact Json.not_isJson_append (k := "status") rfl (by decide) _ _ garbage

theorem exists_utf8_render (f : Frame) : ∃ rest, Text.utf8 f.json.render = 123 :: rest := by
  rw [json_eq, Json.render, Text.utf8_ofList]
  exact ⟨_, rfl⟩

/-- A frame that is not too long is written as it is printed. -/
theorem encode_iff {limit : Nat} {f : Frame} {line : String} :
    f.encode limit = .ok line ↔ line = f.json.render ∧ (Text.utf8 f.json.render).length ≤ limit := by
  rw [encode, Text.length_utf8]
  split
  · next large =>
    refine ⟨fun h => (by cases h), ?_⟩
    rintro ⟨-, small⟩
    exact absurd large (Nat.not_lt.2 small)
  · next small =>
    refine ⟨?_, ?_⟩
    · rintro ⟨⟩
      exact ⟨rfl, Nat.le_of_not_lt small⟩
    · rintro ⟨rfl, -⟩
      rfl

/-- A line is what it parses to, if its fields are read back. -/
theorem parse_render {f : Frame} (hf : f.json.IsFaithful) :
    parse f.json.render =
      if f.json.depth ≤ Json.maxDepth then
        ofFields (Dict.ofList (Json.gatheredFields Dict.ofList f.fields))
      else .error .invalidJson := by
  have trimmed : String.ofList (Text.trim f.json.render.toList) = f.json.render := by
    rw [json_eq, Json.trim_render_object, String.ofList_toList]
  have read : Json.read? f.json.render = if f.json.depth ≤ Json.maxDepth then
      some (f.json.gathered Dict.ofList) else none := by
    refine Json.readWith_render _ (fun n hn => ?_) hf
    rw [json_eq] at hn
    cases hn
  rw [parse, trimmed, read]
  by_cases shallow : f.json.depth ≤ Json.maxDepth
  · rw [if_pos shallow, if_pos shallow, json_eq, Json.gathered]
  · rw [if_neg shallow, if_neg shallow]

/-- Only a frame that is too long is refused. -/
theorem encode_error_iff {limit : Nat} {f : Frame} {e : Failure} :
    f.encode limit = .error e ↔
      limit < (Text.utf8 f.json.render).length ∧
        e = .payloadTooLarge (Text.utf8 f.json.render).length limit := by
  rw [encode, Text.length_utf8]
  split
  · next large =>
    rw [Except.error.injEq, eq_comm]
    exact (and_iff_right large).symm
  · next small =>
    refine ⟨fun h => (by cases h), ?_⟩
    rintro ⟨large, -⟩
    exact absurd large small

/-! ## Reports -/

theorem isFaithful_report (r : Report) : (report r).json.IsFaithful := by
  intro n hn
  rw [json_eq] at hn
  cases hn with
  | field mem part =>
    exfalso
    cases ha : r.address with
    | none =>
      simp only [fields, ha, List.append_nil, List.mem_cons, Prod.mk.injEq, List.not_mem_nil,
        or_false] at mem
      obtain ⟨-, rfl⟩ | ⟨-, rfl⟩ | ⟨-, rfl⟩ := mem <;> cases part
    | some a =>
      simp only [fields, ha, List.cons_append, List.nil_append, List.mem_cons, Prod.mk.injEq,
        List.not_mem_nil, or_false] at mem
      obtain ⟨-, rfl⟩ | ⟨-, rfl⟩ | ⟨-, rfl⟩ | ⟨-, rfl⟩ := mem <;> cases part

theorem depth_report (r : Report) : (report r).json.depth = 1 := by
  obtain ⟨status, link, broker, address⟩ := r
  cases address <;> rfl

/-- A report is read back as it was sent. -/
theorem parse_report (r : Report) : parse (report r).json.render = .ok (some (report r)) := by
  rw [parse_render (isFaithful_report r), if_pos (by rw [depth_report]; decide)]
  obtain ⟨status, link, broker, address⟩ := r
  cases address with
  | none =>
    simp [fields, Json.gatheredFields, Json.gathered, Dict.ofList, ofFields, report?, flag?, address?,
      Dict.find?_insert_self, Dict.find?_insert_of_ne, Dict.find?, Json.string?, Json.bool?]
  | some a =>
    simp [fields, Json.gatheredFields, Json.gathered, Dict.ofList, ofFields, report?, flag?, address?,
      Dict.find?_insert_self, Dict.find?_insert_of_ne, Dict.find?, Json.string?, Json.bool?]

/-! ## Records -/

theorem part_publish {w data : Json} (h : Json.Part w (publish data).json) :
    w = (publish data).json ∨ w = .string "pub" ∨ Json.Part w data := by
  rw [json_eq] at h ⊢
  cases h with
  | whole => exact .inl rfl
  | field mem part =>
    simp only [fields, List.mem_cons, Prod.mk.injEq, List.not_mem_nil, or_false] at mem
    obtain ⟨-, rfl⟩ | ⟨-, rfl⟩ := mem
    · cases part
      exact .inr (.inl rfl)
    · exact .inr (.inr part)

theorem isFaithful_publish {data : Json} (h : data.IsFaithful) :
    (publish data).json.IsFaithful := by
  intro n hn
  obtain hn | hn | hn := part_publish hn
  · rw [json_eq] at hn
    cases hn
  · cases hn
  · exact h n hn

theorem depth_publish (data : Json) : (publish data).json.depth = data.depth + 1 := by
  rw [json_eq]
  simp [fields, Json.depth, Json.fieldDepth]

/-- A record is read back as it was sent, unless its nesting is refused in the frame. -/
theorem parse_publish {members : List (String × Json)} (hs : (Json.object members).IsSorted)
    (hf : (Json.object members).IsFaithful) :
    parse (publish (.object members)).json.render =
      if (Json.object members).depth < Json.maxDepth then
        .ok (some (publish (.object members)))
      else .error .invalidJson := by
  rw [parse_render (isFaithful_publish hf), depth_publish]
  refine if_congr Nat.succ_le_iff ?_ rfl
  have kept : Json.gatheredFields Dict.ofList (publish (.object members)).fields =
      (publish (.object members)).fields := by
    rw [fields, Json.gatheredFields, Json.gatheredFields, Json.gatheredFields,
      Json.gathered_of_isSorted _ hs]
    rfl
  rw [kept]
  simp [fields, Dict.ofList, ofFields, Dict.find?_insert_self, Dict.find?_insert_of_ne]

/-- A query is read back. -/
theorem parse_query : parse query.json.render = .ok (some query) := by
  have faithful : query.json.IsFaithful := by
    intro n hn
    rw [json_eq] at hn
    cases hn with
    | field mem part =>
      simp only [fields, List.mem_singleton, Prod.mk.injEq] at mem
      obtain ⟨-, rfl⟩ := mem
      cases part
  rw [parse_render faithful]
  rfl

/-! ## All frames -/

/-- An object of integers and other values, as values are held, that may stand in a frame. -/
structure IsEnclosable (data : Json) : Prop where
  object : ∃ members, data = .object members
  sorted : data.IsSorted
  integral : data.IsIntegral
  exact : data.IsExact
  depth : data.depth ≤ 126

/-- The record of the frame, if it has one, is of this kind. -/
def IsWhole (f : Frame) : Prop := ∀ data, f = publish data → IsEnclosable data

theorem parse_whole {f : Frame} (h : f.IsWhole) : parse f.json.render = .ok (some f) := by
  cases f with
  | publish data =>
    obtain ⟨⟨members, rfl⟩, sorted, integral, exact, depth⟩ := h data rfl
    have shallow : (Json.object members).depth < Json.maxDepth := Nat.lt_succ_of_le depth
    rw [parse_publish sorted (integral.isFaithful exact), if_pos shallow]
  | query => exact parse_query
  | report r => exact parse_report r

/-- A frame that is encoded is a line without control characters, and is what the line is parsed to. Only one
that would be too long is not encoded. -/
theorem parse_encode {f : Frame} (h : f.IsWhole) (limit : Nat) :
    (∀ line, f.encode limit = .ok line →
      (∀ b ∈ Text.utf8 line, 0x20 ≤ b.toNat) ∧ parse line = .ok (some f)) ∧
    ((∃ e, f.encode limit = .error e) ↔ limit < (Text.utf8 f.json.render).length) := by
  refine ⟨fun line encoded => ?_, ?_, fun long => ?_⟩
  · obtain ⟨rfl, -⟩ := encode_iff.1 encoded
    exact ⟨f.printed_render, parse_whole h⟩
  · rintro ⟨e, refused⟩
    exact (encode_error_iff.1 refused).1
  · exact ⟨_, encode_error_iff.2 ⟨long, rfl⟩⟩

namespace Sample

/-- A record with a list, a negative number and a text of more than one line. -/
def data : Json :=
  .object [("a", .array [.number (.int (-1)), .string "x\ny"]), ("item_id", .number (.int 7))]

theorem part_data {w : Json} (h : Json.Part w data) :
    w = data ∨ w = .array [.number (.int (-1)), .string "x\ny"] ∨ w = .number (.int (-1)) ∨
      w = .string "x\ny" ∨ w = .number (.int 7) := by
  cases h with
  | whole => exact .inl rfl
  | field mem part =>
    simp only [List.mem_cons, Prod.mk.injEq, List.not_mem_nil, or_false] at mem
    obtain ⟨-, rfl⟩ | ⟨-, rfl⟩ := mem
    · cases part with
      | whole => exact .inr (.inl rfl)
      | item mem part =>
        simp only [List.mem_cons, List.not_mem_nil, or_false] at mem
        obtain rfl | rfl := mem
        · cases part
          exact .inr (.inr (.inl rfl))
        · cases part
          exact .inr (.inr (.inr (.inl rfl)))
    · cases part
      exact .inr (.inr (.inr (.inr rfl)))

theorem isWhole : (publish data).IsWhole := by
  rintro _ ⟨⟩
  refine ⟨⟨_, rfl⟩, fun fields hf => ?_, fun n hn => ?_, fun i hi => ?_, by decide⟩
  · obtain h | h | h | h | h := part_data hf <;> cases h
    have keys : "a" < "item_id" := by decide
    exact List.pairwise_pair.2 keys
  · obtain h | h | h | h | h := part_data hn <;> cases h
    · exact ⟨-1, rfl⟩
    · exact ⟨7, rfl⟩
  · obtain h | h | h | h | h := part_data hi <;> cases h <;> decide

theorem parsed_data :
    (publish data).IsWhole ∧ ∃ line, (publish data).encode 64 = .ok line ∧
      parse line = .ok (some (publish data)) := by
  have encoded : (publish data).encode 64 = .ok (publish data).json.render :=
    encode_iff.2 ⟨rfl, by decide +kernel⟩
  exact ⟨isWhole, _, encoded, ((parse_encode isWhole 64).1 _ encoded).2⟩

end Sample

end Telemetry.Relay.Frame
