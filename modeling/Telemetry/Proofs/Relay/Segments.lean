import Telemetry.Proofs.Relay.Recovery

/-!
# Lines of a stream

A newline leaves the assembler as it was at the start of the stream, so what it hands on of a stream is what it
hands on of each line by itself, however the stream is cut into chunks. A line that is not too long is handed on
as it is, without its carriage returns. Of a longer one no more than an end is handed on, from a brace behind what
was too much.
-/

namespace Telemetry.Relay.Assembler

/-- Takes in chunks one after the other, collecting the lines that end in each. -/
def feedAll : List (List UInt8) → Assembler → List (List String) × Assembler
  | [], a => ([], a)
  | chunk :: rest, a =>
    let r := a.feed chunk
    let s := feedAll rest r.2
    (r.1 :: s.1, s.2)

/-- The lines that end in a stream, each without its newline. -/
def ended (bytes : List UInt8) : List (List UInt8) := (bytes.splitOn newline).dropLast

/-- The bytes of a line that count. -/
def content (segment : List UInt8) : List UInt8 := segment.filter (· ≠ carriageReturn)

/-- What is handed on of a line by itself. -/
def handedOn (limit : Nat) (segment : List UInt8) : List String :=
  ((ofLimit limit).feed (segment ++ [newline])).1

/-- Nothing is held of a line. -/
structure IsFresh (a : Assembler) : Prop where
  mode : a.mode = .normal
  buffer : a.buffer = {}

variable {a : Assembler} {text : List UInt8}

/-! ## Chunks and segments -/

/-- It does not matter how a stream is cut into chunks. -/
theorem feedAll_eq (chunks : List (List UInt8)) (a : Assembler) :
    (a.feedAll chunks).1.flatten = (a.feed chunks.flatten).1 := by
  induction chunks generalizing a with
  | nil => rfl
  | cons chunk chunks ih => rw [feedAll, List.flatten_cons, ih, List.flatten_cons, feed_append]

/-- A stream is the beginning of a line, or a line followed by a stream. -/
theorem stream_induction {P : List UInt8 → Prop} (open_ : ∀ bytes, newline ∉ bytes → P bytes)
    (line : ∀ segment rest, newline ∉ segment → P rest → P (segment ++ newline :: rest)) (bytes : List UInt8) :
    P bytes := by
  induction hn : bytes.length using Nat.strongRecOn generalizing bytes with
  | ind n ih =>
    by_cases hm : newline ∈ bytes
    · obtain ⟨segment, rest, rfl, hs⟩ := List.eq_append_cons_of_mem hm
      refine line segment rest hs (ih rest.length ?_ rest rfl)
      rw [← hn, List.length_append, List.length_cons]
      omega
    · exact open_ bytes hm

theorem splitOn_of_notMem {bytes : List UInt8} (h : newline ∉ bytes) : bytes.splitOn newline = [bytes] := by
  refine List.splitOnP_eq_singleton fun b hb => ?_
  rw [beq_eq_false_iff_ne]
  rintro rfl
  exact h hb

theorem ended_of_notMem {bytes : List UInt8} (h : newline ∉ bytes) : ended bytes = [] := by
  rw [ended, splitOn_of_notMem h, List.dropLast_singleton]

theorem ended_append {segment : List UInt8} (h : newline ∉ segment) (rest : List UInt8) :
    ended (segment ++ newline :: rest) = segment :: ended rest := by
  have cut : (segment ++ newline :: rest).splitOn newline =
      segment.splitOn newline ++ rest.splitOn newline :=
    List.splitOnP_append_cons segment rest (beq_self_eq_true newline)
  rw [ended, cut, splitOn_of_notMem h, List.singleton_append,
    List.dropLast_cons_of_ne_nil (List.splitOn_ne_nil _ _), ended]

theorem notMem_of_mem_ended {segment bytes : List UInt8} (h : segment ∈ ended bytes) : newline ∉ segment := by
  induction bytes using stream_induction with
  | open_ bytes hm =>
    rw [ended_of_notMem hm] at h
    cases h
  | line first rest hf ih =>
    rw [ended_append hf, List.mem_cons] at h
    obtain rfl | h := h
    · exact hf
    · exact ih h

/-! ## In the middle of a line -/

/-- What an assembler holds of a line of which it has taken this much. -/
inductive Taken (text : List UInt8) (a : Assembler) : Prop
  | whole (mode : a.mode = .normal) (holds : a.buffer.toList = text) (fits : text.length ≤ a.limit)
  | skipping (mode : a.mode = .discarding) (empty : a.buffer = {}) (long : a.limit < text.length)
  | behind (garbage bytes : List UInt8) (split : text = garbage ++ bytes) (long : a.limit < garbage.length)
    (collected : a.Resyncing bytes) (fits : bytes.length ≤ a.limit)

theorem IsFresh.taken (h : a.IsFresh) : Taken [] a :=
  .whole h.mode (by rw [h.buffer]; rfl) (Nat.zero_le _)

theorem Taken.midline (h : Taken text a) : Midline text.length a := by
  cases h with
  | whole mode holds fits => exact .whole mode (by rw [← Window.length_toList, holds]) fits
  | skipping mode _ _ => exact .skipping mode
  | behind _ bytes _ _ collected fits => exact .behind bytes collected fits

/-- A byte that has been collected behind garbage. -/
theorem Collects.taken {byte : UInt8} {bytes : List UInt8} (h : a.Collects byte bytes) (garbage : List UInt8)
    (long : a.limit < garbage.length) (fits : bytes.length < a.limit) :
    Taken (garbage ++ bytes ++ [byte]) (a.push byte).2 := by
  refine .behind garbage (bytes ++ [byte]) (List.append_assoc _ _ _) ?_ h.collected ?_
  · rwa [h.limit]
  · rw [h.limit, List.length_append]
    exact fits

theorem content_singleton {byte : UInt8} (h : byte ≠ carriageReturn) : content [byte] = [byte] := by
  simp [content, h]

/-- A carriage return is passed over, and any other byte is taken. -/
theorem Taken.push {byte : UInt8} (h : Taken text a) (room : 0 < a.limit) (hn : byte ≠ newline) :
    Taken (text ++ content [byte]) (a.push byte).2 := by
  by_cases hc : byte = carriageReturn
  · subst hc
    have passed : text ++ content [carriageReturn] = text := by simp [content]
    rw [passed]
    by_cases hm : a.mode = .discarding
    · rwa [push_discarding hm, skip, if_neg hn, if_neg (by decide)]
    · rwa [push_carriageReturn hm]
  rw [content_singleton hc]
  cases h with
  | whole mode holds fits =>
    have hm : a.mode ≠ .discarding := by simp [mode]
    have size : a.buffer.size = text.length := by rw [← Window.length_toList, holds]
    by_cases hs : a.buffer.size < a.limit
    · rw [push_room hm hn hc hs]
      refine .whole ?_ ?_ ?_
      · simp only [collect, mode]
      · rw [collect, Window.toList_push, holds]
      · rw [List.length_append, ← size]
        exact hs
    · have alone : a.slide? = none := by simp only [slide?, mode]
      rw [push_overflow hm hn hc (Nat.le_of_not_lt hs) alone]
      refine .skipping rfl rfl ?_
      rw [List.length_append, ← size]
      exact Nat.lt_succ_of_le (Nat.le_of_not_lt hs)
  | skipping mode empty long =>
    by_cases hb : byte = brace
    · subst hb
      have started := (collects_of_discarding mode).taken text long room
      rwa [List.append_nil] at started
    · rw [push_discarding mode, skip, if_neg hn, if_neg hb]
      exact .skipping mode empty (long.trans_le (by simp))
  | behind garbage bytes split long collected fits =>
    subst split
    obtain ⟨hs, more⟩ | ⟨x, y, -, rfl, -, more⟩ | ⟨x, -, rfl, -, gone⟩ := collected.push hn hc
    · exact more.taken garbage long hs
    · -- What is cut off in front of the second brace is garbage too.
      have further := more.taken (garbage ++ brace :: x) (by simp; omega) (by simp at fits ⊢; omega)
      rwa [List.append_assoc garbage] at further
    · rw [gone]
      exact .skipping rfl rfl (by simp [overflow]; omega)

theorem Taken.feed {segment : List UInt8} (h : Taken text a) (room : 0 < a.limit) (hn : newline ∉ segment) :
    Taken (text ++ content segment) (a.feed segment).2 := by
  induction segment generalizing a text with
  | nil => rwa [content, List.filter_nil, List.append_nil]
  | cons b segment ih =>
    have hb : b ≠ newline := fun hb => hn (hb ▸ List.mem_cons_self)
    have same := (h.midline.push room hb).2.1
    have rest := ih (h.push room hb) (by rwa [same]) fun hm => hn (List.mem_cons_of_mem b hm)
    have split : content (b :: segment) = content [b] ++ content segment := by
      rw [content, content, content, ← List.filter_append, List.singleton_append]
    rwa [split, ← List.append_assoc]

/-! ## The end of a line -/

/-- What may be handed on of a line with this content: all of it, if it is not empty and is text. Of a line that
is too long at most an end, from a brace behind the first `limit` bytes, and no longer than that. -/
structure Yields (limit : Nat) (text : List UInt8) (lines : List String) : Prop where
  short : text.length ≤ limit → lines = if text = [] then [] else (Text.ofUtf8? text).toList
  long : limit < text.length → lines = [] ∨ ∃ garbage line, lines = [line] ∧
    text = garbage ++ Text.utf8 line ∧ limit ≤ garbage.length ∧
      (Text.utf8 line).head? = some brace ∧ (Text.utf8 line).length ≤ limit

theorem suffix_of_firstJson? {bytes suffix : List UInt8} (h : firstJson? bytes = some suffix) :
    (∃ x, bytes = x ++ suffix) ∧ suffix.head? = some brace := by
  induction bytes with
  | nil => cases h
  | cons b bytes ih =>
    rw [firstJson?] at h
    split at h
    · next found =>
      cases h
      exact ⟨⟨[], rfl⟩, by rw [List.head?_cons, found.1]⟩
    · obtain ⟨⟨x, hx⟩, hb⟩ := ih h
      exact ⟨⟨b :: x, by rw [hx, List.cons_append]⟩, hb⟩

/-- Behind garbage no more than an end of it is handed on. -/
theorem Resyncing.yields {limit : Nat} {garbage bytes : List UInt8} (h : a.Resyncing bytes)
    (long : limit < garbage.length) (fits : bytes.length ≤ limit) :
    Yields limit (garbage ++ bytes) a.finishLine.1.toList := by
  have cut : ∃ x suffix, bytes = x ++ suffix ∧ suffix.head? = some brace ∧
      a.finishLine.1 = Text.ofUtf8? suffix := by
    cases found : firstJson? bytes with
    | none =>
      obtain ⟨rest, front⟩ := h.front
      exact ⟨[], bytes, rfl, by rw [front, List.head?_cons], by rw [h.finishLine, found, Option.getD_none]⟩
    | some suffix =>
      obtain ⟨⟨x, hx⟩, hb⟩ := suffix_of_firstJson? found
      exact ⟨x, suffix, hx, hb, by rw [h.finishLine, found, Option.getD_some]⟩
  obtain ⟨x, suffix, rfl, front, out⟩ := cut
  rw [out]
  refine ⟨fun short => ?_, fun _ => ?_⟩
  · simp at short
    omega
  · cases valid : Text.ofUtf8? suffix with
    | none => exact .inl rfl
    | some line =>
      rw [← Text.utf8_of_ofUtf8? valid] at front fits ⊢
      refine .inr ⟨garbage ++ x, line, rfl, (List.append_assoc _ _ _).symm, ?_, front, ?_⟩
      · rw [List.length_append]
        omega
      · rw [List.length_append] at fits
        omega

theorem finishLine_eq (a : Assembler) :
    a.finishLine.1 = (if a.buffer.isEmpty then none else Text.ofUtf8? (cutGarbage a.mode a.buffer.toList)) ∧
      a.finishLine.2.IsFresh ∧ a.finishLine.2.limit = a.limit := by
  unfold finishLine
  dsimp only
  split
  · exact ⟨rfl, ⟨rfl, rfl⟩, rfl⟩
  · split
    · next line hline => exact ⟨hline.symm, ⟨rfl, rfl⟩, rfl⟩
    · next hnone => exact ⟨hnone.symm, ⟨rfl, rfl⟩, rfl⟩

/-- A newline hands on what there is of the line and leaves nothing of it. -/
theorem Taken.finish (h : Taken text a) :
    Yields a.limit text (a.push newline).1.toList ∧ (a.push newline).2.IsFresh ∧
      (a.push newline).2.limit = a.limit := by
  cases h with
  | whole mode holds fits =>
    rw [push_end (by simp [mode])]
    obtain ⟨out, fresh⟩ := finishLine_eq a
    have empty : a.buffer.isEmpty = true ↔ text = [] := by
      rw [← holds, ← List.length_eq_zero_iff, Window.length_toList]
      simp [Window.isEmpty]
    refine ⟨⟨fun _ => ?_, fun long => absurd fits (Nat.not_le.2 long)⟩, fresh⟩
    rw [out, mode, holds]
    by_cases nothing : text = []
    · rw [if_pos nothing, if_pos (empty.2 nothing)]
      rfl
    · rw [if_neg nothing, if_neg (fun h => nothing (empty.1 h))]
      rfl
  | skipping mode empty long =>
    rw [push_discarding mode, skip, if_pos rfl]
    exact ⟨⟨fun short => absurd short (Nat.not_le.2 long), fun _ => .inl rfl⟩, ⟨rfl, empty⟩, rfl⟩
  | behind garbage bytes split long collected fits =>
    subst split
    rw [push_end collected.ne_discarding]
    exact ⟨collected.yields long fits, (finishLine_eq a).2⟩

theorem feed_segment {segment : List UInt8} (h : a.IsFresh) (room : 0 < a.limit) (hn : newline ∉ segment) :
    Yields a.limit (content segment) (a.feed (segment ++ [newline])).1 ∧
      (a.feed (segment ++ [newline])).2.IsFresh ∧ (a.feed (segment ++ [newline])).2.limit = a.limit := by
  obtain ⟨silent, same, -⟩ := h.taken.midline.feed room hn
  obtain ⟨yields, fresh, limit⟩ := (h.taken.feed room hn).finish
  rw [List.nil_append, same] at yields
  rw [feed_append, silent, List.nil_append, Assembler.feed, Assembler.feed, List.append_nil]
  exact ⟨yields, fresh, limit.trans same⟩

/-! ## Streams -/

/-- How many lines were thrown away does not matter for those that come. -/
theorem push_dropped (byte : UInt8) (n : Nat) (a : Assembler) :
    ∃ m, push byte { a with dropped := n } = ((a.push byte).1, { (a.push byte).2 with dropped := m }) := by
  have slide : slide? { a with dropped := n } = (a.slide?).map fun b => { b with dropped := n } := by
    unfold slide?
    dsimp only
    split
    · split <;> rfl
    · rfl
  unfold push
  rw [slide]
  dsimp only
  split
  · refine ⟨n, ?_⟩
    unfold skip
    split
    · rfl
    · split <;> rfl
  · split
    · exact ⟨n, rfl⟩
    · split
      · unfold finishLine
        dsimp only
        split
        · exact ⟨n, rfl⟩
        · split
          · exact ⟨n, rfl⟩
          · exact ⟨n + 1, rfl⟩
      · split
        · exact ⟨n, rfl⟩
        · cases a.slide? with
          | none => exact ⟨n + 1, rfl⟩
          | some roomy => exact ⟨n, rfl⟩

theorem feed_dropped (bytes : List UInt8) (n : Nat) (a : Assembler) :
    (feed bytes { a with dropped := n }).1 = (a.feed bytes).1 := by
  induction bytes generalizing a n with
  | nil => rfl
  | cons b bytes ih =>
    obtain ⟨m, pushed⟩ := push_dropped b n a
    rw [feed, feed, pushed, ih]

/-- What a fresh assembler hands on depends on its limit only. -/
theorem IsFresh.feed_eq (h : a.IsFresh) (bytes : List UInt8) :
    (a.feed bytes).1 = ((ofLimit a.limit).feed bytes).1 := by
  obtain ⟨limit, buffer, mode, dropped⟩ := a
  obtain ⟨rfl, rfl⟩ := h
  exact feed_dropped bytes dropped (ofLimit limit)

theorem IsFresh.feed_ended (h : a.IsFresh) (room : 0 < a.limit) (bytes : List UInt8) :
    (a.feed bytes).1 = (ended bytes).flatMap (handedOn a.limit) := by
  induction bytes using stream_induction generalizing a with
  | open_ bytes hm =>
    rw [ended_of_notMem hm]
    exact (h.taken.midline.feed room hm).1
  | line segment rest hs ih =>
    obtain ⟨-, fresh, same⟩ := feed_segment h room hs
    have others := ih fresh (by rwa [same])
    rw [ended_append hs, List.flatMap_cons, List.append_cons, feed_append, others, same, h.feed_eq, handedOn]

/-- A newline ends a line for good. -/
theorem IsFresh.feed_newline (h : a.IsFresh) (room : 0 < a.limit) (bytes : List UInt8) :
    (a.feed (bytes ++ [newline])).2.IsFresh := by
  induction bytes using stream_induction generalizing a with
  | open_ bytes hm => exact (feed_segment h room hm).2.1
  | line segment rest hs ih =>
    obtain ⟨-, fresh, same⟩ := feed_segment h room hs
    rw [List.append_cons segment, List.append_assoc, feed_append]
    exact ih fresh (by rwa [same])

theorem isFresh_ofLimit (limit : Nat) : (ofLimit limit).IsFresh := ⟨rfl, rfl⟩

/-- The lines that come out of a stream in any chunks are those of its segments, each by itself, and after each
newline the assembler is fresh. A segment of at most `limit` bytes, carriage returns not counted, comes out as it
is. Of a longer one at most an end comes out, from a brace behind its first `limit` bytes. -/
theorem feedAll_segments {limit : Nat} (room : 0 < limit) (chunks : List (List UInt8)) :
    ((ofLimit limit).feedAll chunks).1.flatten = (ended chunks.flatten).flatMap (handedOn limit) ∧
    (∀ before later, chunks.flatten = before ++ newline :: later →
      ((ofLimit limit).feed (before ++ [newline])).2.IsFresh) ∧
    ∀ segment ∈ ended chunks.flatten, Yields limit (content segment) (handedOn limit segment) := by
  have fresh := isFresh_ofLimit limit
  refine ⟨?_, fun before _ _ => fresh.feed_newline room before, fun segment hs => ?_⟩
  · rw [feedAll_eq]
    exact fresh.feed_ended room _
  · exact (feed_segment fresh room (notMem_of_mem_ended hs)).1

/-- Two lines in three chunks, and the beginning of a third one. The second line is too long for the limit. -/
def cutUp : List (List UInt8) := [Text.utf8 "a", Text.utf8 "b\r\ncdefg", Text.utf8 "h\x7bx\x7b\x7d\n\x7b"]

theorem lines_cutUp :
    0 < 4 ∧ ((ofLimit 4).feedAll cutUp).1.flatten = ["ab", "\x7b\x7d"] ∧
      ∃ garbage line, handedOn 4 (Text.utf8 "cdefgh\x7bx\x7b\x7d") = [line] ∧
        content (Text.utf8 "cdefgh\x7bx\x7b\x7d") = garbage ++ Text.utf8 line ∧ 4 ≤ garbage.length := by
  have room : 0 < 4 := by decide
  obtain ⟨lines, -, each⟩ := feedAll_segments room cutUp
  have second := (each (Text.utf8 "cdefgh\x7bx\x7b\x7d") (by decide +kernel)).long (by decide +kernel)
  refine ⟨room, ?_, ?_⟩
  · rw [lines]
    decide +kernel
  · obtain nothing | ⟨garbage, line, one, split, long, -⟩ := second
    · exact absurd nothing (by decide +kernel)
    · exact ⟨garbage, line, one, split, long⟩

end Telemetry.Relay.Assembler
