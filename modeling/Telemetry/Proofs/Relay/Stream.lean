import Mathlib.Data.List.Infix
import Telemetry.Relay.Stream

/-!
# A line is handed over whole or with an error

However the stream answers the writes, with a part of the bytes accepted, with an interruption or with a failure, the
bytes it has accepted of a line are the first bytes of the line and its terminator, in their order. They are all of them
if no write has failed. The stream is then flushed, once and behind the terminator; otherwise it is not flushed.
-/

namespace Telemetry.Relay.Stream

open Transport

/-- The error of a write with this answer. One that accepts something goes on, an interrupted one is repeated. -/
def WriteAnswer.error? : WriteAnswer → Option Error
  | .accept 0 => some stalled
  | .accept (_ + 1) => none
  | .fail fault => if fault.kind = .interrupted then none else some (.io fault.reason)

/-! ## Writing all bytes -/

/-- What becomes of bytes that are written as the script answers: what was accepted, what is left of the script, and the
error. -/
inductive Poured (bytes : List UInt8) : List WriteAnswer → List UInt8 × List WriteAnswer × Option Error → Prop
  | whole (answers : List WriteAnswer) {rest : List WriteAnswer} (fine : ∀ a ∈ answers, a.error? = none) :
    Poured bytes (answers ++ rest) (bytes, rest, none)
  | part (answers : List WriteAnswer) {rest : List WriteAnswer} {last : WriteAnswer} {accepted : List UInt8}
    {e : Error} (fine : ∀ a ∈ answers, a.error? = none) (failed : last.error? = some e) (first : accepted <+: bytes)
    (short : accepted ≠ bytes) : Poured bytes (answers ++ last :: rest) (accepted, rest, some e)

variable {x y accepted : List UInt8} {script rest : List WriteAnswer} {error : Option Error}

/-- An answer that lets the writing go on. -/
theorem Poured.cons {a : WriteAnswer} (fine : a.error? = none) (h : Poured y script (accepted, rest, error)) :
    Poured y (a :: script) (accepted, rest, error) := by
  cases h with
  | whole answers others => exact .whole (a :: answers) (List.forall_mem_cons.2 ⟨fine, others⟩)
  | part answers others failed first short =>
    exact .part (a :: answers) (List.forall_mem_cons.2 ⟨fine, others⟩) failed first short

/-- Bytes that were accepted before stand in front. -/
theorem Poured.behind (x : List UInt8) (h : Poured y script (accepted, rest, error)) :
    Poured (x ++ y) script (x ++ accepted, rest, error) := by
  cases h with
  | whole answers fine => exact .whole answers fine
  | part answers fine failed first short =>
    have longer := (List.prefix_append_right_inj x).2 first
    exact .part answers fine failed longer fun whole => short (List.append_cancel_left whole)

/-- After an error the bytes that would have come next are not written. -/
theorem Poured.stop {e : Error} (h : Poured x script (accepted, rest, some e)) (y : List UInt8) :
    Poured (x ++ y) script (accepted, rest, some e) := by
  cases h with
  | part answers fine failed first short =>
    refine .part answers fine failed (first.trans (List.prefix_append x y)) fun whole => short ?_
    exact first.eq_of_length_le (by simp [whole])

/-- Bytes that are written after others were accepted. -/
theorem Poured.append {r : List UInt8 × List WriteAnswer × Option Error} (hx : Poured x script (accepted, rest, none))
    (hy : Poured y rest r) : Poured (x ++ y) script (accepted ++ r.1, r.2) := by
  cases hx with
  | whole answers fine =>
    induction answers with
    | nil => exact hy.behind x
    | cons a answers ih =>
      obtain ⟨head, tail⟩ := List.forall_mem_cons.1 fine
      exact (ih tail).cons head

theorem poured_pour (script : List WriteAnswer) (bytes : List UInt8) : Poured bytes script (pour script bytes) := by
  fun_induction pour script bytes with
  | case1 script => exact .whole [] nofun
  | case2 bytes => exact .whole [] nofun
  | case3 script bytes given => exact .part [] nofun rfl List.nil_prefix (Ne.symm given)
  | case4 n script bytes given r ih =>
    have poured := (ih.behind (bytes.take (n + 1))).cons (a := .accept (n + 1)) rfl
    rwa [List.take_append_drop] at poured
  | case5 fault script bytes given interrupted ih => exact ih.cons (if_pos interrupted)
  | case6 fault script bytes given failed =>
    exact .part [] nofun (if_neg failed) List.nil_prefix (Ne.symm given)

/-! ## Lines -/

/-- The stream after a line, by what became of the bytes of the line and its terminator. -/
theorem poured_writeLine (line : String) (s : Stream) :
    ∃ accepted rest error, Poured (Text.utf8 line ++ terminator) s.writes (accepted, rest, error) ∧
      s.writeLine line =
        match error with
        | some e => (.error e, { s with writes := rest, written := s.written ++ accepted })
        | none => flush { s with writes := rest, written := s.written ++ accepted } := by
  have body := poured_pour s.writes (Text.utf8 line)
  rcases poured : pour s.writes (Text.utf8 line) with ⟨accepted, rest, error⟩
  rw [poured] at body
  cases error with
  | some e => exact ⟨accepted, rest, some e, body.stop terminator, by simp [writeLine, writeAll, poured]⟩
  | none =>
    have finish := poured_pour rest terminator
    rcases poured' : pour rest terminator with ⟨accepted', rest', error'⟩
    rw [poured'] at finish
    refine ⟨accepted ++ accepted', rest', error', body.append finish, ?_⟩
    cases error' <;> simp [writeLine, writeAll, poured, poured']

theorem utf8_line (line : String) : Text.utf8 (line ++ "\n") = Text.utf8 line ++ terminator := by
  rw [Text.utf8, String.toByteArray_append, ByteArray.data_append, Array.toList_append]
  rfl

/-- Unless a write fails, the line is written as a whole and flushed once behind its terminator, and what the flush comes
to is what the line comes to. If a write fails, it is the last one and its error is reported, only a part from the
beginning of the line is written, and nothing is flushed. -/
theorem writeLine_whole_or_error (line : String) (s : Stream) :
    let frame := Text.utf8 (line ++ "\n")
    let s' := (s.writeLine line).2
    ∃ answers, s.writes = answers ++ s'.writes ∧ s'.reads = s.reads ∧
      ((∀ a ∈ answers, a.error? = none) ∧ (s.writeLine line).1 = s.flush.1 ∧ s'.written = s.written ++ frame ∧
          s'.flushedAt = s.flushedAt ++ [s'.written.length] ∨
        ∃ earlier last e part, answers = earlier ++ [last] ∧ (∀ a ∈ earlier, a.error? = none) ∧
          last.error? = some e ∧ (s.writeLine line).1 = .error e ∧ part <+: frame ∧ part ≠ frame ∧
          s'.written = s.written ++ part ∧ s'.flushedAt = s.flushedAt) := by
  obtain ⟨accepted, rest, error, poured, written⟩ := poured_writeLine line s
  rw [← utf8_line] at poured
  rw [written]
  generalize s.writes = script at poured ⊢
  cases poured with
  | whole answers fine => exact ⟨answers, rfl, rfl, .inl ⟨fine, rfl, rfl, rfl⟩⟩
  | @part answers _ last _ e fine failed first short =>
    exact ⟨answers ++ [last], List.append_cons answers last rest, rfl,
      .inr ⟨answers, last, e, accepted, rfl, fine, failed, rfl, first, short, rfl, rfl⟩⟩

end Telemetry.Relay.Stream
