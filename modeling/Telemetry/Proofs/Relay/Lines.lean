import Telemetry.Proofs.Relay.Frames
import Telemetry.Proofs.Relay.Resync
import Telemetry.Relay.Companion
import Telemetry.Relay.MainUnit

/-!
# Lines in chunks

An endpoint that gets whole lines hands them on as they were sent, however the bytes are cut into chunks:
what its assembler holds and what is still to come are together the lines that have not been handled.
-/

namespace Telemetry.Relay

/-- A line that an assembler with this limit takes whole. -/
structure IsLine (limit : Nat) (line : String) : Prop where
  nonempty : Text.utf8 line ≠ []
  printed : ∀ b ∈ Text.utf8 line, 0x20 ≤ b.toNat
  fits : (Text.utf8 line).length ≤ limit

/-- A frame is a line. -/
theorem isLine_frame {limit : Nat} {f : Frame} (h : (Text.utf8 f.json.render).length ≤ limit) :
    IsLine limit f.json.render := by
  refine ⟨?_, f.printed_render, h⟩
  intro empty
  have json := f.isJson_render
  rw [empty] at json
  cases json

/-- Lines as they are sent. -/
def stream (lines : List String) : List UInt8 :=
  lines.flatMap fun line => Text.utf8 line ++ [Assembler.newline]

@[simp] theorem stream_nil : stream [] = [] := rfl

theorem stream_cons (line : String) (lines : List String) :
    stream (line :: lines) = Text.utf8 line ++ Assembler.newline :: stream lines := by
  simp [stream]

@[simp] theorem stream_append (x y : List String) : stream (x ++ y) = stream x ++ stream y :=
  List.flatMap_append

namespace Assembler

/-- What the assembler holds and the bytes still to come are these lines. -/
structure Awaits (a : Assembler) (later : List UInt8) (lines : List String) : Prop where
  mode : a.mode = .normal
  open_ : newline ∉ a.buffer.toList
  stream : a.buffer.toList ++ later = stream lines

theorem awaits_ofLimit (limit : Nat) (lines : List String) :
    Awaits (ofLimit limit) (Relay.stream lines) lines :=
  ⟨rfl, List.not_mem_nil, rfl⟩

variable {a : Assembler} {lines : List String}

/-- A byte that goes on with a line is collected. -/
theorem push_within {byte : UInt8} (hm : a.mode = .normal) (hn : byte ≠ newline)
    (hc : byte ≠ carriageReturn) (hs : a.buffer.size < a.limit) :
    a.push byte = (none, { a with buffer := a.buffer.push byte }) := by
  have collected : a.collect byte = { a with buffer := a.buffer.push byte } := by
    obtain ⟨limit, buffer, mode, dropped⟩ := a
    cases hm
    rfl
  rw [push_room (by simp [hm]) hn hc hs, collected]

/-- A newline hands the line on. -/
theorem push_newline {line : String} (hm : a.mode = .normal)
    (hb : a.buffer.toList = Text.utf8 line) (hne : Text.utf8 line ≠ []) :
    a.push newline = (some line, { a with buffer := {}, mode := .normal }) := by
  have filled : a.buffer.isEmpty = false := by
    rw [← hb, ← List.length_pos_iff, Window.length_toList] at hne
    simpa [Window.isEmpty] using Nat.pos_iff_ne_zero.1 hne
  rw [push_end (by simp [hm]), finishLine, filled, hm, hb]
  simp [cutGarbage, Text.ofUtf8?_utf8]

/-- The next byte ends the line at hand or belongs to it. -/
theorem Awaits.next {byte : UInt8} {later : List UInt8} (h : a.Awaits (byte :: later) lines)
    (hl : ∀ line ∈ lines, IsLine a.limit line) :
    ∃ line rest, lines = line :: rest ∧
      ((byte = newline ∧ a.buffer.toList = Text.utf8 line ∧ later = Relay.stream rest) ∨
        ∃ tail, Text.utf8 line = a.buffer.toList ++ byte :: tail) := by
  obtain ⟨mode, clean, sent⟩ := h
  cases lines with
  | nil => simp at sent
  | cons line rest =>
    rw [stream_cons] at sent
    refine ⟨line, rest, rfl, ?_⟩
    obtain ⟨tail, hu, hb⟩ | ⟨beyond, hu, hb⟩ := List.append_eq_append_iff.1 sent
    · cases tail with
      | nil =>
        cases hb
        exact .inl ⟨rfl, by simpa using hu.symm, rfl⟩
      | cons b tail =>
        cases hb
        exact .inr ⟨tail, hu⟩
    · cases beyond with
      | nil =>
        cases hb
        exact .inl ⟨rfl, by simpa using hu, rfl⟩
      | cons b beyond =>
        obtain ⟨rfl, -⟩ := List.cons.inj hb
        exact absurd (hu ▸ by simp) clean

theorem Awaits.push {byte : UInt8} {later : List UInt8} (h : a.Awaits (byte :: later) lines)
    (hl : ∀ line ∈ lines, IsLine a.limit line) :
    ∃ rest, lines = (a.push byte).1.toList ++ rest ∧ (a.push byte).2.Awaits later rest ∧
      (a.push byte).2.limit = a.limit := by
  obtain ⟨line, rest, rfl, ⟨rfl, full, rfl⟩ | ⟨tail, within⟩⟩ := h.next hl
  · rw [push_newline h.mode full (hl line List.mem_cons_self).nonempty]
    exact ⟨rest, rfl, ⟨rfl, List.not_mem_nil, rfl⟩, rfl⟩
  · have whole := hl line List.mem_cons_self
    have printed : 0x20 ≤ byte.toNat := whole.printed byte (within ▸ by simp)
    have notNewline : byte ≠ newline := by
      rintro rfl
      exact absurd printed (by decide)
    have notReturn : byte ≠ carriageReturn := by
      rintro rfl
      exact absurd printed (by decide)
    have room : a.buffer.size < a.limit := by
      have fits := whole.fits
      rw [within, List.length_append, List.length_cons, Window.length_toList] at fits
      omega
    rw [push_within h.mode notNewline notReturn room]
    refine ⟨line :: rest, rfl, ⟨h.mode, ?_, ?_⟩, rfl⟩
    · rw [Window.toList_push, List.mem_append, List.mem_singleton]
      rintro (hn | hn)
      · exact h.open_ hn
      · exact notNewline hn.symm
    · rw [Window.toList_push, List.append_assoc]
      exact h.stream

/-- The lines that end among the bytes are handed on, and what follows is still awaited. -/
theorem Awaits.feed {bytes later : List UInt8} (h : a.Awaits (bytes ++ later) lines)
    (hl : ∀ line ∈ lines, IsLine a.limit line) :
    ∃ rest, lines = (a.feed bytes).1 ++ rest ∧ (a.feed bytes).2.Awaits later rest ∧
      (a.feed bytes).2.limit = a.limit := by
  induction bytes generalizing a lines with
  | nil => exact ⟨lines, rfl, h, rfl⟩
  | cons byte bytes ih =>
    obtain ⟨others, rfl, pushed, same⟩ := Awaits.push (by exact h) hl
    have left : ∀ line ∈ others, IsLine (a.push byte).2.limit line := by
      intro line hline
      rw [same]
      exact hl line (List.mem_append_right _ hline)
    obtain ⟨rest, rfl, fed, same'⟩ := ih pushed left
    refine ⟨rest, ?_, fed, same'.trans same⟩
    rw [Assembler.feed, List.append_assoc]

theorem Awaits.handed (h : a.Awaits [] lines) : lines = [] := by
  cases lines with
  | nil => rfl
  | cons line rest =>
    have sent := h.stream
    rw [stream_cons, List.append_nil] at sent
    exact absurd (sent ▸ by simp) h.open_

/-- A fresh assembler hands on the line that it gets. -/
theorem feed_line {limit : Nat} {line : String} (h : IsLine limit line) :
    ((ofLimit limit).feed (Text.utf8 line ++ [newline])).1 = [line] := by
  have awaited : (ofLimit limit).Awaits ((Text.utf8 line ++ [newline]) ++ []) [line] := by
    have start := awaits_ofLimit limit [line]
    rwa [stream_cons, stream_nil, ← List.append_nil (_ ++ _)] at start
  have whole : ∀ l ∈ [line], IsLine (ofLimit limit).limit l := by
    intro l hl
    rw [List.mem_singleton.1 hl]
    exact h
  obtain ⟨rest, all, fed, -⟩ := awaited.feed whole
  rw [fed.handed, List.append_nil] at all
  exact all.symm

end Assembler

/-! ## Endpoints -/

/-- An endpoint whose assembler is a part of its own: handling a line neither reads nor changes it. -/
class LawfulLineEnd (ω : outParam Type) (S : Type) [LineEnd ω S] : Prop where
  assembler_withAssembler (a : Assembler) (s : S) :
    LineEnd.assembler (LineEnd.withAssembler a s) = a
  withAssembler_withAssembler (a b : Assembler) (s : S) :
    LineEnd.withAssembler a (LineEnd.withAssembler b s) = LineEnd.withAssembler a s
  withAssembler_assembler (s : S) : LineEnd.withAssembler (LineEnd.assembler s) s = s
  handle_withAssembler (line : String) (a : Assembler) (s : S) :
    LineEnd.handle line (LineEnd.withAssembler a s) =
      LineEnd.withAssembler a (LineEnd.handle line s)

namespace LineEnd

variable {ω S : Type} [LineEnd ω S]

/-- Handles lines in order. -/
def handleAll (lines : List String) (s : S) : S := lines.foldl (fun s line => handle line s) s

theorem handleAll_singleton (line : String) (s : S) : handleAll [line] s = handle line s := rfl

theorem handleAll_cons (line : String) (lines : List String) (s : S) :
    handleAll (line :: lines) s = handleAll lines (handle line s) := rfl

theorem handleAll_append (x y : List String) (s : S) :
    handleAll (x ++ y) s = handleAll y (handleAll x s) := List.foldl_append

variable [LawfulLineEnd ω S]

open LawfulLineEnd

theorem handleAll_withAssembler (lines : List String) (a : Assembler) (s : S) :
    handleAll lines (withAssembler a s) = withAssembler a (handleAll lines s) := by
  induction lines generalizing s with
  | nil => rfl
  | cons line lines ih => exact (congrArg (handleAll lines) (handle_withAssembler line a s)).trans (ih _)

theorem take_eq (bytes : List UInt8) (s : S) :
    take bytes s =
      withAssembler ((assembler s).feed bytes).2 (handleAll ((assembler s).feed bytes).1 s) :=
  handleAll_withAssembler _ _ s

theorem assembler_take (bytes : List UInt8) (s : S) :
    assembler (take bytes s) = ((assembler s).feed bytes).2 := by
  rw [take_eq, assembler_withAssembler]

theorem take_nil (s : S) : take [] s = s := withAssembler_assembler s

theorem take_append (x y : List UInt8) (s : S) : take (x ++ y) s = take y (take x s) := by
  rw [take_eq, take_eq y, assembler_take, Assembler.feed_append, handleAll_append, take_eq x,
    handleAll_withAssembler, withAssembler_withAssembler]

/-- What reading a chunk and taking it in preserves, a whole tick's reading preserves. -/
theorem pump_induction [Wire ω] {P : S → Prop}
    (step : ∀ s, P s → P (take (readChunk s).1 (readChunk s).2)) (budget : Nat) {s : S} (h : P s) :
    P (pump budget s) := by
  induction budget using Nat.strongRecOn generalizing s with
  | ind budget ih =>
    rw [pump]
    by_cases open_ : 0 < budget
    · rw [if_pos open_]
      have next := step s h
      cases hr : readChunk s with
      | mk bytes s' =>
        rw [hr] at next
        cases bytes with
        | nil => rwa [take_nil] at next
        | cons byte rest => exact ih _ (by omega) next
    · rwa [if_neg open_]

/-- It does not matter how bytes are cut into chunks. -/
theorem foldl_take (chunks : List (List UInt8)) (s : S) :
    chunks.foldl (fun s chunk => take chunk s) s = take chunks.flatten s := by
  induction chunks generalizing s with
  | nil => exact (take_nil s).symm
  | cons chunk chunks ih => rw [List.foldl_cons, ih, List.flatten_cons, take_append]

end LineEnd

/-! ## The two units -/

theorem MainUnit.lineEnd_handle {ω : Type} [Wire ω] (line : String) (u : MainUnit ω) :
    LineEnd.handle line u = MainUnit.handle line u := rfl

instance {ω : Type} [Wire ω] : LawfulLineEnd ω (MainUnit ω) where
  assembler_withAssembler _ _ := rfl
  withAssembler_withAssembler _ _ _ := rfl
  withAssembler_assembler _ := rfl
  handle_withAssembler line a u := by
    change MainUnit.handle line { u with assembler := a } =
      { MainUnit.handle line u with assembler := a }
    unfold MainUnit.handle
    split <;> rfl

section Companion

variable {ω ρ β σ : Type} [Wire ω] [Radio ρ]

theorem Companion.report_withAssembler (a : Assembler) (c : Companion ω ρ β σ) :
    Companion.report { c with assembler := a } = { c.report with assembler := a } := by
  have same : Companion.currentReport { c with assembler := a } = c.currentReport := rfl
  unfold Companion.report
  simp only [same]
  cases (Frame.report c.currentReport).encode c.frameLimit <;> rfl

theorem Companion.lineEnd_handle [Client β] (line : String) (c : Companion ω ρ β σ) :
    LineEnd.handle line c = Companion.handle line c := rfl

instance [Client β] : LawfulLineEnd ω (Companion ω ρ β σ) where
  assembler_withAssembler _ _ := rfl
  withAssembler_withAssembler _ _ _ := rfl
  withAssembler_assembler _ := rfl
  handle_withAssembler line a c := by
    change Companion.handle line { c with assembler := a } =
      { Companion.handle line c with assembler := a }
    unfold Companion.handle
    split
    · rfl
    · exact Companion.report_withAssembler a c
    · rfl

end Companion

end Telemetry.Relay
