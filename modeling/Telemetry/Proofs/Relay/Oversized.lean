import Telemetry.HostRadio
import Telemetry.Mqtt
import Telemetry.Proofs.Json.Reading
import Telemetry.Proofs.Json.Suffix
import Telemetry.Proofs.Relay.Channel
import Telemetry.Proofs.Relay.Segments
import Telemetry.Relay.Companion
import Telemetry.Relay.MainUnit
import Telemetry.Store.Flash

/-!
# Frames that are too long

Of a line that is too long an end may be handed on, from a brace on. When the line is one JSON object, that end
is not a frame: it is not even JSON. So nothing inside a frame that is too long takes effect at either end of the
wire, whatever stands in its strings and its inner objects.
-/

namespace Telemetry

/-- A text that does not begin with a blank keeps its beginning when it is trimmed, and loses blanks. -/
theorem Text.exists_trim {c : Char} (hc : isBlank c = false) (cs : List Char) :
    ∃ kept dropped, trim (c :: cs) = c :: kept ∧ c :: cs = c :: kept ++ dropped ∧
      ∀ d ∈ dropped, isBlank d = true := by
  have start : trimStart (c :: cs) = c :: cs := by simp [trimStart, hc]
  have cut : trim (c :: cs) ++ (c :: cs).rtakeWhile isBlank = c :: cs := by
    rw [trim, start]
    exact List.rdropWhile_append_rtakeWhile
  have blank : ∀ d ∈ (c :: cs).rtakeWhile isBlank, isBlank d = true := fun d hd => List.mem_rtakeWhile_imp hd
  cases shape : trim (c :: cs) with
  | nil =>
    rw [shape, List.nil_append] at cut
    have first := blank c (by rw [cut]; exact List.mem_cons_self)
    rw [hc] at first
    cases first
  | cons d kept =>
    rw [shape] at cut
    obtain ⟨rfl, -⟩ := List.cons.inj cut
    exact ⟨kept, _, rfl, cut.symm, blank⟩

namespace Relay

open Assembler (newline brace content ofLimit)

variable {a : Assembler} {limit : Nat} {object : List UInt8}

theorem ofBytes_content (bytes : List UInt8) :
    Json.Scan.ofBytes (content bytes) = (Json.Scan.ofBytes bytes).filter (· ≠ '\r') := by
  rw [Json.Scan.ofBytes, Json.Scan.ofBytes, content, List.filter_map]
  refine congrArg (List.map _) (List.filter_congr fun b _ => ?_)
  have number := Json.Scan.toNat_ofNat b.toNat_lt
  have same : Char.ofNat b.toNat = '\r' ↔ b = Assembler.carriageReturn := by
    constructor
    · intro h
      rw [h] at number
      exact UInt8.toNat_inj.1 number.symm
    · rintro rfl
      rfl
  simp [same]

/-- The end of an object from an inner brace on is not read, whatever blanks it loses. -/
theorem read?_inner {garbage kept dropped : List Char}
    (scanned : Json.scans ('\x7b' :: garbage ++ '\x7b' :: kept ++ dropped) = true)
    (blank : ∀ d ∈ dropped, Text.isBlank d = true) :
    Json.read? (String.ofList ('\x7b' :: kept)) = none := by
  refine Option.eq_none_iff_forall_ne_some.2 fun v read => ?_
  have inner := Json.scans_of_readWith read
  rw [String.toList_ofList, Json.scans_inner scanned fun d hd => ?_] at inner
  · cases inner
  · have := blank d hd
    rintro (rfl | rfl) <;> revert this <;> decide

/-- What is handed on of an object that is too long is not JSON. -/
theorem parse_oversized (fresh : a.IsFresh) (room : 0 < a.limit) (front : object.head? = some brace)
    (json : Json.isJson object = true) (whole : newline ∉ object) (long : a.limit < (content object).length)
    {line : String} (h : line ∈ (a.feed (object ++ [newline])).1) :
    Frame.parse line = .error .invalidJson := by
  obtain ⟨yields, -⟩ := Assembler.feed_segment fresh room whole
  obtain nothing | ⟨garbage, last, one, split, enough, opened, -⟩ := yields.long long
  · rw [nothing] at h
    cases h
  rw [one, List.mem_singleton] at h
  subst h
  obtain ⟨cs, shape⟩ := Text.exists_cons_of_utf8 (c := '\x7b') (by decide) opened
  obtain ⟨kept, dropped, trimmed, cut, blank⟩ := Text.exists_trim (c := '\x7b') (by decide) cs
  -- The garbage is not empty, so it begins with the brace of the object.
  obtain ⟨g, rfl⟩ : ∃ g, garbage = brace :: g := by
    have first : (content object).head? = some brace := by
      cases object with
      | nil => cases front
      | cons b object =>
        cases front
        rfl
    cases garbage with
    | nil => simp at enough; omega
    | cons b g =>
      rw [split] at first
      cases first
      exact ⟨g, rfl⟩
  have scanned : Json.scans ('\x7b' :: Json.Scan.ofBytes g ++ '\x7b' :: kept ++ dropped) = true := by
    have content : Json.scans (Json.Scan.ofBytes (content object)) = true := by
      rw [ofBytes_content]
      exact Json.scans_filter ((Json.isJson_eq_scans object).symm.trans json)
    rw [split, ← String.ofList_toList (s := line), Json.scans_ofBytes_append, shape, cut] at content
    rw [List.append_assoc]
    exact content
  rw [Frame.parse, shape, trimmed, read?_inner scanned blank]

/-- Lines that are not JSON change nothing at the end of the wire that takes them. -/
theorem take_of_refused {ω S : Type} [Wire ω] [LineEnd ω S] {s : S} {bytes : List UInt8}
    (passed : ∀ line t, Frame.parse line = .error .invalidJson → LineEnd.handle line (t : S) = t)
    (h : ∀ line ∈ ((LineEnd.assembler s).feed bytes).1, Frame.parse line = .error .invalidJson) :
    LineEnd.take bytes s = LineEnd.withAssembler ((LineEnd.assembler s).feed bytes).2 s := by
  have each : ∀ lines : List String, (∀ line ∈ lines, Frame.parse line = .error .invalidJson) →
      ∀ t : S, lines.foldl (fun s line => LineEnd.handle line s) t = t := by
    intro lines refused
    induction lines with
    | nil => exact fun t => rfl
    | cons line lines ih =>
      intro t
      rw [List.foldl_cons, passed line t (refused line List.mem_cons_self)]
      exact ih (fun l hl => refused l (List.mem_cons_of_mem line hl)) t
  exact each _ h _

section Ends

variable {ω ρ β σ : Type} [Wire ω] [Radio ρ] [Client β]

/-- A line that consists of one JSON object and is too long hands on nothing that is a frame, and an end of the
wire that takes it in between two lines changes nothing but its assembler. -/
theorem oversized_object_ignored (room : 0 < limit) (front : object.head? = some brace)
    (json : Json.isJson object = true) (whole : newline ∉ object) (long : limit < (content object).length) :
    (∀ line ∈ ((ofLimit limit).feed (object ++ [newline])).1, Frame.parse line = .error .invalidJson) ∧
    (∀ c : Companion ω ρ β σ, c.assembler = ofLimit limit → LineEnd.take (object ++ [newline]) c =
      { c with assembler := ((ofLimit limit).feed (object ++ [newline])).2 }) ∧
    ∀ u : MainUnit ω, u.assembler = ofLimit limit → LineEnd.take (object ++ [newline]) u =
      { u with assembler := ((ofLimit limit).feed (object ++ [newline])).2 } := by
  have refused : ∀ line ∈ ((ofLimit limit).feed (object ++ [newline])).1,
      Frame.parse line = .error .invalidJson :=
    fun line h => parse_oversized (Assembler.isFresh_ofLimit limit) room front json whole long h
  refine ⟨refused, fun c hc => ?_, fun u hu => ?_⟩
  · have passed : ∀ line (t : Companion ω ρ β σ), Frame.parse line = .error .invalidJson →
        LineEnd.handle line t = t := by
      intro line t h
      change Companion.handle line t = t
      rw [Companion.handle, h]
    have taken := take_of_refused (s := c) passed (by rwa [show LineEnd.assembler c = _ from hc])
    rwa [show LineEnd.assembler c = _ from hc] at taken
  · have passed : ∀ line (t : MainUnit ω), Frame.parse line = .error .invalidJson →
        LineEnd.handle line t = t := by
      intro line t h
      change MainUnit.handle line t = t
      rw [MainUnit.handle, h]
    have taken := take_of_refused (s := u) passed (by rwa [show LineEnd.assembler u = _ from hu])
    rwa [show LineEnd.assembler u = _ from hu] at taken

end Ends

/-- A record that holds a status query, in all longer than 20 bytes. -/
def nestedQuery : List UInt8 := Text.utf8 "\x7b\"k\":\"aaaaaaaaa\",\"o\":\x7b\"cmd\":\"status\"\x7d\x7d"

/-- The query in the record is handed on, with a brace too many. -/
theorem nestedQuery_ignored :
    0 < 20 ∧ nestedQuery.head? = some brace ∧ Json.isJson nestedQuery = true ∧ newline ∉ nestedQuery ∧
      20 < (content nestedQuery).length ∧
      ((ofLimit 20).feed (nestedQuery ++ [newline])).1 = ["\x7b\"cmd\":\"status\"\x7d\x7d"] ∧
      Frame.parse "\x7b\"cmd\":\"status\"\x7d\x7d" = .error .invalidJson := by
  have room : 0 < 20 := by decide
  have front : nestedQuery.head? = some brace := by decide +kernel
  have json : Json.isJson nestedQuery = true := by decide +kernel
  have whole : newline ∉ nestedQuery := by decide +kernel
  have long : 20 < (content nestedQuery).length := by decide +kernel
  have lines : ((ofLimit 20).feed (nestedQuery ++ [newline])).1 = ["\x7b\"cmd\":\"status\"\x7d\x7d"] := by
    decide +kernel
  obtain ⟨refused, -⟩ := oversized_object_ignored (ω := Port) (ρ := HostRadio) (β := Mqtt.IdleClient)
    (σ := Store.Flash) room front json whole long
  exact ⟨room, front, json, whole, long, lines, refused _ (by rw [lines]; exact List.mem_cons_self)⟩

end Relay
end Telemetry
