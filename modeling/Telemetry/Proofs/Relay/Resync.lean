import Telemetry.Relay.Assembler

/-!
# Collecting behind garbage

While an assembler collects behind garbage, its buffer begins with a brace, and the braces that it remembers
are those in the buffer. A slide cuts the buffer at its second brace, and is refused only if there is none.
The line that comes out is the longest suffix of the buffer that begins with a brace and is JSON.
-/

namespace Telemetry.Relay.Assembler

/-! ## One byte of a line -/

section Push

variable {a roomy : Assembler} {byte : UInt8} (hm : a.mode ≠ .discarding) (hn : byte ≠ newline)
  (hc : byte ≠ carriageReturn)

include hm hn hc

/-- While there is room, a byte is collected. -/
theorem push_room (hs : a.buffer.size < a.limit) : a.push byte = (none, a.collect byte) := by
  rw [push, if_neg hm, if_neg hc, if_neg hn, if_pos hs]

theorem push_slide (hs : a.limit ≤ a.buffer.size) (h : a.slide? = some roomy) :
    a.push byte = (none, roomy.collect byte) := by
  rw [push, if_neg hm, if_neg hc, if_neg hn, if_neg (Nat.not_lt.2 hs), h]

theorem push_overflow (hs : a.limit ≤ a.buffer.size) (h : a.slide? = none) :
    a.push byte = (none, a.overflow) := by
  rw [push, if_neg hm, if_neg hc, if_neg hn, if_neg (Nat.not_lt.2 hs), h]

end Push

theorem push_discarding {a : Assembler} (hm : a.mode = .discarding) (byte : UInt8) :
    a.push byte = (none, a.skip byte) := by
  rw [push, if_pos hm]

theorem push_carriageReturn {a : Assembler} (hm : a.mode ≠ .discarding) :
    a.push carriageReturn = (none, a) := by
  rw [push, if_neg hm, if_pos rfl]

theorem push_end {a : Assembler} (hm : a.mode ≠ .discarding) : a.push newline = a.finishLine := by
  rw [push, if_neg hm, if_neg (by decide), if_pos rfl]

/-! ## Braces -/

/-- Where the braces are, if the first byte is counted as `start`. -/
def braces (start : Nat) : List UInt8 → List Nat
  | [] => []
  | b :: bytes => if b = brace then start :: braces (start + 1) bytes else braces (start + 1) bytes

theorem braces_append (start : Nat) (x y : List UInt8) :
    braces start (x ++ y) = braces start x ++ braces (start + x.length) y := by
  induction x generalizing start with
  | nil => rfl
  | cons b x ih =>
    have shift : start + 1 + x.length = start + (b :: x).length := by
      rw [List.length_cons]
      omega
    rw [List.cons_append, braces, braces, ih, shift]
    split <;> rfl

theorem braces_of_notMem {start : Nat} {bytes : List UInt8} (h : brace ∉ bytes) :
    braces start bytes = [] := by
  induction bytes generalizing start with
  | nil => rfl
  | cons b bytes ih =>
    have hb : b ≠ brace := fun hb => h (hb ▸ List.mem_cons_self)
    rw [braces, if_neg hb, ih fun hm => h (List.mem_cons_of_mem b hm)]

/-- The longest suffix that begins with a brace and is JSON. -/
def firstJson? : List UInt8 → Option (List UInt8)
  | [] => none
  | b :: bytes =>
    if b = brace ∧ Json.isJson (b :: bytes) then some (b :: bytes) else firstJson? bytes

/-- Trying the braces one after the other finds the longest suffix. -/
theorem jsonSuffix?_braces (start : Nat) (x bytes : List UInt8) :
    jsonSuffix? start (x ++ bytes) (braces (start + x.length) bytes) = firstJson? bytes := by
  induction bytes generalizing start x with
  | nil => rfl
  | cons b bytes ih =>
    rw [braces, firstJson?]
    by_cases hb : b = brace
    · have cut : (x ++ b :: bytes).drop (start + x.length - start) = b :: bytes := by
        rw [Nat.add_sub_cancel_left, List.drop_left]
      rw [if_pos hb, jsonSuffix?, cut]
      by_cases json : Json.isJson (b :: bytes) = true
      · simp [hb, hb ▸ json]
      · have rest := ih (start + x.length) [b]
        rw [if_neg json, if_neg (fun h => json h.2)]
        exact rest
    · have rest := ih start (x ++ [b])
      rw [List.append_assoc, List.length_append] at rest
      rw [if_neg hb, if_neg (fun h => hb h.1)]
      exact rest

/-! ## Collecting -/

/-- The assembler collects behind garbage and holds these bytes. -/
structure Resyncing (a : Assembler) (bytes : List UInt8) : Prop where
  holds : a.buffer.toList = bytes
  front : ∃ rest, bytes = brace :: rest
  starts : ∃ starts start, a.mode = .resync starts ∧ starts.toList = braces start bytes

variable {a : Assembler} {bytes : List UInt8}

theorem Resyncing.size (h : a.Resyncing bytes) : a.buffer.size = bytes.length := by
  rw [← Window.length_toList, h.holds]

theorem Resyncing.ne_discarding (h : a.Resyncing bytes) : a.mode ≠ .discarding := by
  obtain ⟨starts, start, mode, -⟩ := h.starts
  simp [mode]

theorem Resyncing.collect (h : a.Resyncing bytes) (byte : UInt8) :
    (a.collect byte).Resyncing (bytes ++ [byte]) ∧ (a.collect byte).limit = a.limit := by
  obtain ⟨rest, rfl⟩ := h.front
  obtain ⟨starts, start, mode, found⟩ := h.starts
  have first : starts.get? 0 = some start := by
    rw [Window.get?_eq, found]
    rfl
  refine ⟨⟨?_, ⟨rest ++ [byte], rfl⟩, ?_⟩, rfl⟩
  · rw [Assembler.collect, Window.toList_push, h.holds]
  · refine ⟨if byte = brace then starts.push (start + a.buffer.size) else starts, start, ?_, ?_⟩
    · simp only [Assembler.collect, mode, first, Option.getD_some]
    · rw [braces_append, ← found, h.size]
      split
      · next hb => simp [braces, hb]
      · next hb => simp [braces, hb]

/-- A slide cuts the buffer at the second brace. -/
theorem Resyncing.slide {x y : List UInt8} (h : a.Resyncing (brace :: x ++ brace :: y))
    (hx : brace ∉ x) :
    ∃ roomy, a.slide? = some roomy ∧ roomy.limit = a.limit ∧ roomy.Resyncing (brace :: y) := by
  obtain ⟨starts, start, mode, found⟩ := h.starts
  have second : braces start (brace :: x ++ brace :: y) =
      start :: (start + 1 + x.length) :: braces (start + 1 + x.length + 1) y := by
    rw [List.cons_append, braces, if_pos rfl, braces_append, braces_of_notMem hx, braces, if_pos rfl]
    rfl
  rw [second] at found
  have get0 : starts.get? 0 = some start := by
    rw [Window.get?_eq, found]
    rfl
  have get1 : starts.get? 1 = some (start + 1 + x.length) := by
    rw [Window.get?_eq, found]
    rfl
  refine ⟨{ a with
    buffer := a.buffer.drop (start + 1 + x.length - start), mode := .resync (starts.drop 1) },
    ?_, rfl, ?_, ⟨y, rfl⟩, ?_⟩
  · simp only [slide?, mode, get0, get1]
  · have cut : start + 1 + x.length - start = (brace :: x).length := by
      rw [List.length_cons]
      omega
    rw [Window.toList_drop, h.holds, cut, List.drop_left]
  · refine ⟨_, start + 1 + x.length, rfl, ?_⟩
    rw [Window.toList_drop, found, braces, if_pos rfl]
    rfl

/-- Without a second brace there is no slide. -/
theorem Resyncing.slide_refused {x : List UInt8} (h : a.Resyncing (brace :: x)) (hx : brace ∉ x) :
    a.slide? = none := by
  obtain ⟨starts, start, mode, found⟩ := h.starts
  rw [braces, if_pos rfl, braces_of_notMem hx] at found
  have get1 : starts.get? 1 = none := by
    rw [Window.get?_eq, found]
    rfl
  simp only [slide?, mode, get1]
  split
  · next hnone => cases hnone
  · rfl

/-- A slide cuts the buffer at its second brace, if it has one. -/
theorem Resyncing.slide_cases (h : a.Resyncing bytes) :
    (∃ x y roomy, bytes = brace :: x ++ brace :: y ∧ brace ∉ x ∧ a.slide? = some roomy ∧
      roomy.limit = a.limit ∧ roomy.Resyncing (brace :: y)) ∨
      ∃ x, bytes = brace :: x ∧ brace ∉ x ∧ a.slide? = none := by
  obtain ⟨rest, rfl⟩ := h.front
  by_cases second : brace ∈ rest
  · obtain ⟨x, y, rfl, hx⟩ := List.eq_append_cons_of_mem second
    obtain ⟨roomy, slid, limit, cut⟩ := h.slide (y := y) hx
    exact .inl ⟨x, y, roomy, rfl, hx, slid, limit, cut⟩
  · exact .inr ⟨rest, rfl, second, h.slide_refused second⟩

/-- The byte is taken and collected behind these. -/
structure Collects (a : Assembler) (byte : UInt8) (bytes : List UInt8) : Prop where
  silent : (a.push byte).1 = none
  limit : (a.push byte).2.limit = a.limit
  collected : (a.push byte).2.Resyncing (bytes ++ [byte])

/-- A brace ends the skipping. -/
theorem collects_of_discarding (h : a.mode = .discarding) : a.Collects brace [] := by
  have pushed : a.push brace =
      (none, { a with buffer := .singleton brace, mode := .resync (.singleton 0) }) := by
    rw [push_discarding h, skip, if_neg (by decide), if_pos rfl]
  constructor
  · rw [pushed]
  · rw [pushed]
  · rw [pushed]
    exact ⟨rfl, ⟨[], rfl⟩, .singleton 0, 0, rfl, rfl⟩

/-- Behind garbage a byte for which there is no room cuts the buffer at its second brace; if it has only
one, all is given up. -/
theorem Resyncing.push {byte : UInt8} (h : a.Resyncing bytes) (hn : byte ≠ newline)
    (hc : byte ≠ carriageReturn) :
    (bytes.length < a.limit ∧ a.Collects byte bytes) ∨
      (∃ x y, a.limit ≤ bytes.length ∧ bytes = brace :: x ++ brace :: y ∧ brace ∉ x ∧
        a.Collects byte (brace :: y)) ∨
      ∃ x, a.limit ≤ bytes.length ∧ bytes = brace :: x ∧ brace ∉ x ∧
        a.push byte = (none, a.overflow) := by
  have hm := h.ne_discarding
  have size := h.size
  by_cases hs : a.buffer.size < a.limit
  · obtain ⟨more, same⟩ := h.collect byte
    have pushed := push_room hm hn hc hs
    exact .inl ⟨size ▸ hs, by rw [pushed], by rw [pushed, same], by rwa [pushed]⟩
  · have full := Nat.le_of_not_lt hs
    rw [size] at full
    right
    obtain ⟨x, y, roomy, rfl, hx, slid, limit, cut⟩ | ⟨x, rfl, hx, alone⟩ := h.slide_cases
    · obtain ⟨more, same⟩ := cut.collect byte
      have pushed := push_slide hm hn hc (Nat.le_of_not_lt hs) slid
      exact .inl ⟨x, y, full, rfl, hx, by rw [pushed], by rw [pushed, same, limit], by rwa [pushed]⟩
    · exact .inr ⟨x, full, rfl, hx, push_overflow hm hn hc (Nat.le_of_not_lt hs) alone⟩

/-- The end of a line cuts the garbage off at the first brace from which the rest is JSON. -/
theorem Resyncing.cutGarbage (h : a.Resyncing bytes) :
    cutGarbage a.mode a.buffer.toList = (firstJson? bytes).getD bytes := by
  obtain ⟨rest, rfl⟩ := h.front
  obtain ⟨starts, start, mode, found⟩ := h.starts
  have search := jsonSuffix?_braces start [] (brace :: rest)
  rw [List.nil_append, List.length_nil, Nat.add_zero] at search
  rw [← search, mode, h.holds]
  unfold Assembler.cutGarbage
  simp only [found]
  rw [braces, if_pos rfl]

/-- The line that comes out behind garbage. -/
theorem Resyncing.finishLine (h : a.Resyncing bytes) :
    a.finishLine.1 = Text.ofUtf8? ((firstJson? bytes).getD bytes) := by
  have filled : a.buffer.isEmpty = false := by
    obtain ⟨rest, rfl⟩ := h.front
    simp [Window.isEmpty, h.size]
  rw [Assembler.finishLine, filled, h.cutGarbage]
  simp only [Bool.false_eq_true, if_false]
  split
  · next line hline => exact hline.symm
  · next hnone => exact hnone.symm

end Telemetry.Relay.Assembler
