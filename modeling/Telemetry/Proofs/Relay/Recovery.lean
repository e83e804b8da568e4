import Telemetry.Proofs.Relay.Frames
import Telemetry.Proofs.Relay.Resync

/-!
# Recovering a frame behind garbage

A frame that follows garbage without an end of line is recovered whatever braces the garbage has, since
nothing that begins in the garbage and ends with the frame is JSON. The exception is a full buffer with a
single brace when the frame begins: then the first brace of the frame is given up with the garbage.
-/

namespace Telemetry.Relay.Assembler

variable {a : Assembler} {bytes : List UInt8}

/-! ## Garbage -/

/-- What an assembler may hold in the middle of a line, of which it has taken `n` bytes. Carriage returns
are not counted. -/
inductive Midline (n : Nat) (a : Assembler) : Prop
  | whole (mode : a.mode = .normal) (size : a.buffer.size = n) (fits : n ≤ a.limit)
  | skipping (mode : a.mode = .discarding)
  | behind (bytes : List UInt8) (collected : a.Resyncing bytes) (fits : bytes.length ≤ a.limit)

theorem midline_ofLimit (limit : Nat) : Midline 0 (ofLimit limit) :=
  .whole rfl rfl (Nat.zero_le limit)

theorem Collects.midline {n : Nat} {byte : UInt8} (h : a.Collects byte bytes)
    (fits : bytes.length < a.limit) : Midline n (a.push byte).2 := by
  refine .behind _ h.collected ?_
  rw [h.limit, List.length_append]
  exact fits

theorem Midline.push {n : Nat} {byte : UInt8} (h : Midline n a) (room : 0 < a.limit)
    (hn : byte ≠ newline) :
    (a.push byte).1 = none ∧ (a.push byte).2.limit = a.limit ∧
      Midline (n + if byte = carriageReturn then 0 else 1) (a.push byte).2 := by
  obtain ⟨mode, size, fits⟩ | mode | ⟨bytes, collected, fits⟩ := h
  · have hm : a.mode ≠ .discarding := by simp [mode]
    by_cases hc : byte = carriageReturn
    · subst hc
      rw [push_carriageReturn hm]
      exact ⟨rfl, rfl, .whole mode size fits⟩
    · by_cases hs : a.buffer.size < a.limit
      · rw [push_room hm hn hc hs, if_neg hc]
        rw [size] at hs
        refine ⟨rfl, rfl, .whole ?_ ?_ hs⟩
        · simp only [collect, mode]
        · rw [← Window.length_toList, collect, Window.toList_push, List.length_append,
            Window.length_toList, size]
          rfl
      · have none : a.slide? = none := by simp only [slide?, mode]
        rw [push_overflow hm hn hc (Nat.le_of_not_lt hs) none]
        exact ⟨rfl, rfl, .skipping rfl⟩
  · by_cases hb : byte = brace
    · subst hb
      have started := collects_of_discarding mode
      exact ⟨started.silent, started.limit, started.midline room⟩
    · rw [push_discarding mode, skip, if_neg hn, if_neg hb]
      exact ⟨rfl, rfl, .skipping mode⟩
  · by_cases hc : byte = carriageReturn
    · subst hc
      rw [push_carriageReturn collected.ne_discarding]
      exact ⟨rfl, rfl, .behind bytes collected fits⟩
    · obtain ⟨hs, more⟩ | ⟨x, y, -, rfl, -, more⟩ | ⟨x, -, -, -, gone⟩ := collected.push hn hc
      · exact ⟨more.silent, more.limit, more.midline hs⟩
      · refine ⟨more.silent, more.limit, more.midline ?_⟩
        simp only [List.length_append, List.length_cons] at fits ⊢
        omega
      · rw [gone]
        exact ⟨rfl, rfl, .skipping rfl⟩

/-- Garbage without an end of line hands nothing on. -/
theorem Midline.feed {n : Nat} (h : Midline n a) (room : 0 < a.limit) (hn : newline ∉ bytes) :
    (a.feed bytes).1 = [] ∧ (a.feed bytes).2.limit = a.limit ∧
      Midline (n + (bytes.filter (· ≠ carriageReturn)).length) (a.feed bytes).2 := by
  induction bytes generalizing a n with
  | nil => exact ⟨rfl, rfl, h⟩
  | cons b bytes ih =>
    obtain ⟨silent, same, next⟩ := h.push room (fun hb => hn (hb ▸ List.mem_cons_self))
    obtain ⟨silent', same', last⟩ := ih next (by omega) fun hm => hn (List.mem_cons_of_mem b hm)
    refine ⟨?_, same'.trans same, ?_⟩
    · rw [Assembler.feed, silent, silent']
      rfl
    · have count : n + ((b :: bytes).filter (· ≠ carriageReturn)).length =
          n + (if b = carriageReturn then 0 else 1) +
            (bytes.filter (· ≠ carriageReturn)).length := by
        rw [List.filter_cons]
        by_cases hb : b = carriageReturn
        · simp [hb]
        · simp [hb]
          omega
      rw [count]
      exact last

/-- The buffer behind garbage is full and has a single brace, so the next byte is too much. -/
def IsCornered (a : Assembler) : Prop :=
  a.limit ≤ a.buffer.size ∧ ∃ rest, a.Resyncing (brace :: rest) ∧ brace ∉ rest

/-! ## The frame -/

/-- The first brace of a frame starts its collection. -/
theorem Midline.push_brace {n : Nat} (h : Midline n a) (room : 0 < a.limit) (long : a.limit < n)
    (free : ¬ a.IsCornered) : ∃ x, a.Collects brace x ∧ x.length < a.limit := by
  obtain ⟨mode, size, fits⟩ | mode | ⟨bytes, collected, fits⟩ := h
  · omega
  · exact ⟨[], collects_of_discarding mode, room⟩
  · have notNewline : brace ≠ newline := by decide
    have notReturn : brace ≠ carriageReturn := by decide
    obtain ⟨hs, more⟩ | ⟨x, y, -, rfl, -, more⟩ | ⟨x, full, rfl, single, -⟩ :=
      collected.push notNewline notReturn
    · exact ⟨bytes, more, hs⟩
    · refine ⟨brace :: y, more, ?_⟩
      simp only [List.length_append, List.length_cons] at fits ⊢
      omega
    · exact absurd ⟨collected.size ▸ full, x, collected, single⟩ free

/-- A slide cuts no more than what is in front of a frame, unless the frame alone fills the buffer. -/
theorem suffix_of_slide {u w x y : List UInt8} (shape : x ++ brace :: y = brace :: u ++ brace :: w)
    (hu : brace ∉ u) (hx : x ≠ []) : ∃ x', brace :: w = x' ++ brace :: y := by
  obtain ⟨v, hv, hw⟩ | ⟨v, hv, hw⟩ := List.append_eq_append_iff.1 shape
  · cases v with
    | nil => exact ⟨[], hw.symm⟩
    | cons b v =>
      obtain ⟨rfl, -⟩ := List.cons.inj hw
      cases x with
      | nil => exact absurd rfl hx
      | cons c x =>
        obtain ⟨-, rfl⟩ := List.cons.inj hv
        exact absurd (List.mem_append_right x List.mem_cons_self) hu
  · exact ⟨v, hw⟩

/-- A further byte of a frame is collected, at the cost of garbage in front of the frame. -/
theorem Resyncing.push_frame {x y : List UInt8} {byte : UInt8} (h : a.Resyncing (x ++ brace :: y))
    (fits : (x ++ brace :: y).length ≤ a.limit) (room : (brace :: y).length < a.limit)
    (hn : byte ≠ newline) (hc : byte ≠ carriageReturn) :
    ∃ x', a.Collects byte (x' ++ brace :: y) ∧ (x' ++ brace :: y).length < a.limit := by
  have behind : a.limit ≤ (x ++ brace :: y).length → x ≠ [] := by
    rintro full rfl
    rw [List.nil_append] at full
    omega
  obtain ⟨hs, more⟩ | ⟨u, w, full, shape, hu, more⟩ | ⟨u, full, shape, hu, -⟩ := h.push hn hc
  · exact ⟨x, more, hs⟩
  · obtain ⟨x', tail⟩ := suffix_of_slide shape hu (behind full)
    rw [shape] at fits
    rw [tail] at more
    refine ⟨x', more, ?_⟩
    rw [← tail]
    simp only [List.length_append, List.length_cons] at fits ⊢
    omega
  · obtain ⟨b, x, rfl⟩ := List.exists_cons_of_ne_nil (behind full)
    obtain ⟨rfl, rfl⟩ := List.cons.inj shape
    exact absurd (List.mem_append_right x List.mem_cons_self) hu

theorem Resyncing.feed_frame {x y rest : List UInt8} (h : a.Resyncing (x ++ brace :: y))
    (fits : (x ++ brace :: y).length ≤ a.limit) (room : (brace :: y ++ rest).length ≤ a.limit)
    (printed : ∀ b ∈ rest, b ≠ newline ∧ b ≠ carriageReturn) :
    ∃ x', (a.feed rest).1 = [] ∧ (a.feed rest).2.Resyncing (x' ++ brace :: (y ++ rest)) := by
  induction rest generalizing a x y with
  | nil => exact ⟨x, rfl, by rwa [List.append_nil]⟩
  | cons b rest ih =>
    obtain ⟨hn, hc⟩ := printed b List.mem_cons_self
    simp only [List.length_append, List.length_cons] at room
    obtain ⟨x₁, pushed, fits₁⟩ := h.push_frame fits (by rw [List.length_cons]; omega) hn hc
    have more := pushed.collected
    rw [List.append_assoc, List.cons_append] at more
    obtain ⟨x₂, silent, last⟩ := ih more
      (by simp only [pushed.limit, List.length_append, List.length_cons, List.length_nil] at fits₁ ⊢; omega)
      (by simp only [pushed.limit, List.length_append, List.length_cons, List.length_nil]; omega)
      fun c hm => printed c (List.mem_cons_of_mem b hm)
    rw [List.append_assoc, List.singleton_append] at last
    refine ⟨x₂, ?_, last⟩
    rw [Assembler.feed, pushed.silent, silent]
    rfl

/-- Garbage in front of a frame is cut off. -/
theorem firstJson?_append_frame (x : List UInt8) (f : Frame) :
    firstJson? (x ++ Text.utf8 f.json.render) = some (Text.utf8 f.json.render) := by
  induction x with
  | nil =>
    obtain ⟨rest, shape⟩ := f.exists_utf8_render
    have json := f.isJson_render
    rw [shape] at json
    rw [List.nil_append, shape, firstJson?, if_pos ⟨rfl, json⟩]
  | cons b x ih =>
    have garbage : ¬(b = brace ∧ Json.isJson (b :: (x ++ Text.utf8 f.json.render)) = true) := by
      rintro ⟨rfl, json⟩
      have := f.not_isJson_append x
      rw [List.cons_append] at this
      rw [brace, this] at json
      cases json
    rw [List.cons_append, firstJson?, if_neg garbage, ih]

theorem Resyncing.push_end_frame {x : List UInt8} {f : Frame}
    (h : a.Resyncing (x ++ Text.utf8 f.json.render)) :
    (a.push newline).1 = some f.json.render := by
  rw [push_end h.ne_discarding, h.finishLine, firstJson?_append_frame, Option.getD_some,
    Text.ofUtf8?_utf8]

/-! ## What is given up -/

theorem length_jsonSuffix?_le {start : Nat} {suffix : List UInt8} {starts : List Nat}
    (h : jsonSuffix? start bytes starts = some suffix) : suffix.length ≤ bytes.length := by
  induction starts generalizing start bytes with
  | nil => cases h
  | cons next starts ih =>
    have shorter : (bytes.drop (next - start)).length ≤ bytes.length := by
      rw [List.length_drop]
      omega
    rw [jsonSuffix?] at h
    split at h
    · cases h
      exact shorter
    · exact (ih h).trans shorter

theorem length_cutGarbage_le (mode : Mode) (bytes : List UInt8) :
    (cutGarbage mode bytes).length ≤ bytes.length := by
  unfold cutGarbage
  split
  · split
    · exact le_rfl
    · next start rest _ =>
      cases hs : jsonSuffix? start bytes (start :: rest) with
      | none => exact le_rfl
      | some suffix => exact length_jsonSuffix?_le hs
  · exact le_rfl

theorem size_collect (a : Assembler) (byte : UInt8) :
    (a.collect byte).buffer.size = a.buffer.size + 1 := by
  rw [← Window.length_toList, collect, Window.toList_push, List.length_append,
    Window.length_toList]
  rfl

theorem size_slide?_le {roomy : Assembler} (h : a.slide? = some roomy) :
    roomy.buffer.size ≤ a.buffer.size := by
  unfold slide? at h
  split at h
  · split at h
    · cases h
      rw [← Window.length_toList, Window.toList_drop, List.length_drop, Window.length_toList]
      omega
    · cases h
  · cases h

theorem size_finishLine (a : Assembler) : a.finishLine.2.buffer.size = 0 := by
  unfold finishLine
  dsimp only
  split
  · rfl
  · split <;> rfl

theorem length_finishLine_le {line : String} (h : a.finishLine.1 = some line) :
    (Text.utf8 line).length ≤ a.buffer.size := by
  unfold finishLine at h
  dsimp only at h
  split at h
  · cases h
  · split at h
    · next found =>
      cases h
      rw [Text.utf8_of_ofUtf8? found, ← Window.length_toList]
      exact length_cutGarbage_le _ _
    · cases h

theorem size_push_le (a : Assembler) (byte : UInt8) :
    (a.push byte).2.buffer.size ≤ a.buffer.size + 1 := by
  unfold push
  split
  · unfold skip
    split
    · exact Nat.le_succ _
    · split
      · exact Nat.le_add_left 1 _
      · exact Nat.le_succ _
  · split
    · exact Nat.le_succ _
    · split
      · rw [size_finishLine]
        exact Nat.zero_le _
      · split
        · exact (size_collect a byte).le
        · split
          · next slid => exact (size_collect _ byte).le.trans (Nat.succ_le_succ (size_slide?_le slid))
          · exact Nat.zero_le _

theorem eq_end_of_push {byte : UInt8} {line : String} (h : (a.push byte).1 = some line) :
    a.push byte = a.finishLine := by
  unfold push at h ⊢
  split at h
  · cases h
  · split at h
    · cases h
    · split at h
      · next hm hc hn => rw [if_neg hm, if_neg hc, if_pos hn]
      · split at h
        · cases h
        · split at h <;> cases h

/-- A line is no longer than what is held and what comes in before its end. -/
theorem length_lt_of_mem_feed {line : String} (h : line ∈ (a.feed bytes).1) :
    (Text.utf8 line).length < a.buffer.size + bytes.length := by
  induction bytes generalizing a with
  | nil => cases h
  | cons b bytes ih =>
    rw [feed, List.mem_append, Option.mem_toList] at h
    rw [List.length_cons]
    obtain h | h := h
    · have ended := eq_end_of_push h
      rw [ended] at h
      have := length_finishLine_le h
      omega
    · have := ih h
      have := size_push_le a b
      omega

/-! ## Recovery -/

/-- A cornered assembler gives the first brace of a frame up, and what is left is no frame. -/
theorem IsCornered.not_mem_feed (h : a.IsCornered) (f : Frame) :
    f.json.render ∉ (a.feed (Text.utf8 f.json.render ++ [newline])).1 := by
  obtain ⟨full, others, collected, single⟩ := h
  obtain ⟨rest, shape⟩ := f.exists_utf8_render
  have given : a.push brace = (none, a.overflow) :=
    push_overflow collected.ne_discarding (by decide) (by decide) full
      (collected.slide_refused single)
  have out : (a.feed (Text.utf8 f.json.render ++ [newline])).1 =
      (a.overflow.feed (rest ++ [newline])).1 := by
    rw [shape]
    change (a.feed (brace :: (rest ++ [newline]))).1 = _
    rw [feed, given]
    rfl
  rw [out]
  intro mem
  have short := length_lt_of_mem_feed mem
  have empty : a.overflow.buffer.size = 0 := rfl
  rw [shape, empty, List.length_append, List.length_cons, List.length_singleton] at short
  omega

/-- Behind too much garbage a frame is recovered by an assembler that is not cornered. -/
theorem Midline.recovers {n : Nat} (h : Midline n a) (long : a.limit < n) (free : ¬ a.IsCornered)
    {f : Frame} (fits : (Text.utf8 f.json.render).length ≤ a.limit) :
    (a.feed (Text.utf8 f.json.render ++ [newline])).1 = [f.json.render] := by
  obtain ⟨rest, shape⟩ := f.exists_utf8_render
  have room : 0 < a.limit := by
    rw [shape, List.length_cons] at fits
    omega
  have printed : ∀ b ∈ rest, b ≠ newline ∧ b ≠ carriageReturn := by
    intro b hb
    have := f.printed_render b (shape ▸ List.mem_cons_of_mem _ hb)
    constructor <;> (rintro rfl; exact absurd this (by decide))
  obtain ⟨x, started, short⟩ := h.push_brace room long free
  obtain ⟨x', quiet, collected⟩ := started.collected.feed_frame
    (by rw [started.limit, List.length_append]; exact short)
    (by rw [shape] at fits; simpa [started.limit] using fits) printed
  have whole : Text.utf8 f.json.render = brace :: ([] ++ rest) := shape
  rw [← whole] at collected
  have ended := collected.push_end_frame
  rw [whole, List.nil_append, List.cons_append, Assembler.feed, feed_append, started.silent, quiet,
    Assembler.feed, ended]
  rfl

/-- After garbage without an end of line that is too long for one, a frame comes out whole, and nothing
else does, unless its first brace finds the buffer full and with a single brace. -/
theorem feed_frame_iff {limit : Nat} {garbage : List UInt8} (unended : newline ∉ garbage)
    (long : limit < (garbage.filter (· ≠ carriageReturn)).length) {f : Frame} {line : String}
    (encoded : f.encode limit = .ok line) :
    ((ofLimit limit).feed (garbage ++ Text.utf8 line ++ [newline])).1 = [line] ↔
      ¬ ((ofLimit limit).feed garbage).2.IsCornered := by
  obtain ⟨rfl, fits⟩ := Frame.encode_iff.1 encoded
  have room : 0 < limit := by
    obtain ⟨rest, shape⟩ := f.exists_utf8_render
    rw [shape, List.length_cons] at fits
    omega
  obtain ⟨silent, same, midline⟩ := (midline_ofLimit limit).feed (by exact room) unended
  rw [Nat.zero_add] at midline
  set behind := ((ofLimit limit).feed garbage).2
  have limit_eq : behind.limit = limit := same
  -- What comes out is what the frame and the end of the line bring out.
  have out : ((ofLimit limit).feed (garbage ++ Text.utf8 f.json.render ++ [newline])).1 =
      (behind.feed (Text.utf8 f.json.render ++ [newline])).1 := by
    rw [List.append_assoc, feed_append, silent, List.nil_append]
  rw [out]
  constructor
  · intro recovered cornered
    have lost := cornered.not_mem_feed f
    rw [recovered] at lost
    exact lost (List.mem_singleton_self _)
  · intro free
    exact midline.recovers (by rwa [limit_eq]) free (by rwa [limit_eq])

/-- Sixty-five bytes, then a brace and as many bytes as make the buffer full. -/
def cornering : List UInt8 := List.replicate 65 120 ++ brace :: List.replicate 63 120

theorem lost_behind_cornering :
    ((ofLimit 64).feed (cornering ++ Text.utf8 Frame.query.json.render ++ [newline])).1 ≠
      [Frame.query.json.render] := by
  have encoded : Frame.query.encode 64 = .ok Frame.query.json.render :=
    Frame.encode_iff.2 ⟨rfl, by decide +kernel⟩
  have unended : newline ∉ cornering := by decide +kernel
  have long : 64 < (cornering.filter (· ≠ carriageReturn)).length := by decide +kernel
  have cornered : ((ofLimit 64).feed cornering).2.IsCornered := by
    refine ⟨by decide +kernel, List.replicate 63 120, ⟨?_, ⟨_, rfl⟩, .singleton 0, 0, ?_, rfl⟩, ?_⟩
    · decide +kernel
    · decide +kernel
    · decide
  exact fun recovered => (feed_frame_iff unended long encoded).1 recovered cornered

end Telemetry.Relay.Assembler
