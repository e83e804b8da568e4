import Telemetry.Proofs.Json.Embedded

/-!
# No value ends another one

In a text that is one JSON value, what stands from an inner brace to the end is not a value. A brace that
begins a value stands inside a container, and the rest of the text closes one container more than it opens.
From a brace inside a string the quotes are taken the wrong way round: outside a string where the
whole text is inside one, and the other way at each quote, so that in the end one of the two is still open.
A backslash would break the alternation, but it is refused by the one that is outside a string.

Carriage returns may be left out of a JSON text: they only stand between tokens.
-/

namespace Telemetry.Json

def Mode.isText : Mode → Bool
  | .text _ => true
  | _ => false

/-- Not between the quotes of a string. -/
def Mode.isOutside : Mode → Bool
  | .text _ | .escape _ | .hex _ _ => false
  | _ => true

theorem Mode.not_isText {m : Mode} (h : m.isOutside = true) : m.isText = false := by
  cases m <;> first | rfl | cases h

namespace Scan

variable {s s' t t' : Scan} {c : Char} {n : List Bracket} {cs v rest : List Char}

theorem run_cons_iff : s.run (c :: cs) = some t ↔ ∃ next, s.step c = some next ∧ next.run cs = some t :=
  Option.bind_eq_some_iff

theorem run_append_iff : s.run (v ++ rest) = some t ↔ ∃ u, s.run v = some u ∧ u.run rest = some t := by
  rw [run_append, Option.bind_eq_some_iff]

theorem scans_iff : scans cs = true ↔ ∃ s, start.run cs = some s ∧ s.isComplete = true := by
  unfold scans
  cases start.run cs <;> simp

/-! ## Inside further containers -/

/-- The same scan inside further containers. -/
def within (outer : List Bracket) (s : Scan) : Scan := ⟨s.mode, s.nesting ++ outer⟩

theorem beginValue_within (h : beginValue n c = some t) (outer : List Bracket) :
    beginValue (n ++ outer) c = some (t.within outer) := by
  unfold beginValue at h ⊢
  split at h <;> grind [within]

theorem afterValue_within (h : afterValue n c = some t) (outer : List Bracket) :
    afterValue (n ++ outer) c = some (t.within outer) := by
  unfold afterValue at h ⊢
  cases n <;> grind [within]

/-- While something is open, what is open around it does not matter. -/
theorem step_within (hs : s.IsOpen) (h : s.step c = some t) (outer : List Bracket) :
    (s.within outer).step c = some (t.within outer) := by
  have begins : ∀ t, beginValue s.nesting c = some t →
      beginValue (s.nesting ++ outer) c = some (t.within outer) :=
    fun t ht => beginValue_within ht outer
  have ends : ∀ t, afterValue s.nesting c = some t →
      afterValue (s.nesting ++ outer) c = some (t.within outer) :=
    fun t ht => afterValue_within ht outer
  obtain ⟨m, n⟩ := s
  cases m with
  | word w => cases w <;> grind [step, within, IsOpen]
  | number part => cases hp : part.next? c <;> grind [step, within]
  | _ => grind [step, within, IsOpen, closeText]

theorem run_within (hs : s.IsOpen) (h : s.run cs = some t) (outer : List Bracket) :
    (s.within outer).run cs = some (t.within outer) := by
  induction cs generalizing s with
  | nil =>
    cases h
    rfl
  | cons c cs ih =>
    obtain ⟨next, first, rest⟩ := run_cons_iff.1 h
    exact run_cons_iff.2 ⟨_, step_within hs first outer, ih (isOpen_step hs first) rest⟩

/-! ## The last closing bracket -/

/-- A bracket or a brace that closes a container. -/
def IsCloser (c : Char) : Prop := c = ']' ∨ c = '\x7d'

theorem nesting_beginValue (hn : n ≠ []) (h : beginValue n c = some t) : t.nesting ≠ [] := by
  unfold beginValue at h
  split at h <;> grind

theorem nesting_afterValue (hc : ¬ IsCloser c) (hn : n ≠ []) (h : afterValue n c = some t) :
    t.nesting ≠ [] := by
  unfold afterValue at h
  grind [IsCloser]

theorem nesting_step (hc : ¬ IsCloser c) (hn : s.nesting ≠ []) (h : s.step c = some t) :
    t.nesting ≠ [] := by
  have begins : ∀ t, beginValue s.nesting c = some t → t.nesting ≠ [] :=
    fun t ht => nesting_beginValue hn ht
  have ends : ∀ t, afterValue s.nesting c = some t → t.nesting ≠ [] :=
    fun t ht => nesting_afterValue hc hn ht
  obtain ⟨m, n⟩ := s
  cases m with
  | word w => cases w <;> grind [step]
  | _ => grind [step, closeText, IsCloser]

/-- What is open stays open up to the next closing bracket. -/
theorem nesting_run (hc : ∀ c ∈ cs, ¬ IsCloser c) (hn : s.nesting ≠ []) (h : s.run cs = some t) :
    t.nesting ≠ [] := by
  induction cs generalizing s with
  | nil =>
    cases h
    exact hn
  | cons c cs ih =>
    obtain ⟨next, first, rest⟩ := run_cons_iff.1 h
    have still := nesting_step (hc c List.mem_cons_self) hn first
    exact ih (fun d hd => hc d (List.mem_cons_of_mem c hd)) still rest

/-! ## Quotes taken the wrong way round -/

theorem ne_of_isDigit (h : c.isDigit = true) : c ≠ '\\' ∧ c ≠ '"' := by
  constructor <;> rintro rfl <;> cases h

theorem ne_of_isAlpha (h : c.isAlpha = true) : c ≠ '\\' ∧ c ≠ '"' := by
  constructor <;> rintro rfl <;> cases h

theorem outside_beginValue (h : beginValue n c = some t) :
    c ≠ '\\' ∧ if c = '"' then t.mode.isText else t.mode.isOutside := by
  have plain := ne_of_isDigit (c := c)
  unfold beginValue at h
  split at h <;> grind [Mode.isText, Mode.isOutside]

theorem outside_afterValue (h : afterValue n c = some t) :
    c ≠ '\\' ∧ c ≠ '"' ∧ t.mode.isOutside := by
  unfold afterValue at h
  grind [isSpace, Mode.isOutside]

/-- A quote leads into a string, and nothing else does; a backslash is refused. -/
theorem step_outside (hp : s.Plain) (hs : s.mode.isOutside) (h : s.step c = some t) :
    c ≠ '\\' ∧ if c = '"' then t.mode.isText else t.mode.isOutside := by
  have begins : ∀ t, beginValue s.nesting c = some t →
      c ≠ '\\' ∧ if c = '"' then t.mode.isText else t.mode.isOutside :=
    fun t ht => outside_beginValue ht
  have ends : ∀ t, afterValue s.nesting c = some t → c ≠ '\\' ∧ c ≠ '"' ∧ t.mode.isOutside :=
    fun t ht => outside_afterValue ht
  obtain ⟨m, n⟩ := s
  cases m with
  | word w =>
    cases w with
    | nil => grind [step]
    | cons l rest =>
      have plain := ne_of_isAlpha (hp l List.mem_cons_self)
      grind [step, Mode.isOutside]
  | number part =>
    have plain := ne_of_isDigit (c := c)
    cases part <;> grind [step, NumberPart.next?, Mode.isOutside]
  | _ => grind [step, isSpace, Mode.isText, Mode.isOutside]

/-- A quote leads out of a string, and only a backslash begins an escape. -/
theorem step_inside (hc : c ≠ '\\') (hs : s.mode.isText) (h : s.step c = some t) :
    if c = '"' then t.mode.isOutside else t.mode.isText := by
  obtain ⟨m, n⟩ := s
  cases m <;> grind [step, closeText, Mode.isText, Mode.isOutside]

/-- One of the two scans is inside a string, and the other is not. -/
def Opposed (s s' : Scan) : Prop :=
  s.mode.isText ∧ s'.mode.isOutside ∨ s.mode.isOutside ∧ s'.mode.isText

theorem Opposed.step (h : Opposed s s') (hp : s.Plain) (hp' : s'.Plain) (ht : s.step c = some t)
    (ht' : s'.step c = some t') : Opposed t t' := by
  obtain ⟨inside, outside⟩ | ⟨outside, inside⟩ := h
  · have ⟨notEscape, moved'⟩ := step_outside hp' outside ht'
    have moved := step_inside notEscape inside ht
    grind [Opposed]
  · have ⟨notEscape, moved⟩ := step_outside hp outside ht
    have moved' := step_inside notEscape inside ht'
    grind [Opposed]

/-- Two scans of one text stay opposed. -/
theorem Opposed.run (h : Opposed s s') (hp : s.Plain) (hp' : s'.Plain) (ht : s.run cs = some t)
    (ht' : s'.run cs = some t') : Opposed t t' := by
  induction cs generalizing s s' with
  | nil =>
    cases ht
    cases ht'
    exact h
  | cons c cs ih =>
    obtain ⟨next, first, rest⟩ := run_cons_iff.1 ht
    obtain ⟨next', first', rest'⟩ := run_cons_iff.1 ht'
    exact ih (h.step hp hp' first first') (plain_step hp first) (plain_step hp' first') rest rest'

/-! ## What is left of a value -/

theorem isOutside_of_isComplete (h : s.isComplete = true) : s.mode.isOutside = true := by
  obtain ⟨m, n⟩ := s
  cases m <;> grind [isComplete, Mode.isOutside]

/-- A value that begins with a brace, behind a text whose containers are open, leaves one of them open. -/
theorem nesting_of_value (hp : s.Plain) (ho : s.IsOpen) (h : s.run ('\x7b' :: v) = some t)
    (whole : scans ('\x7b' :: v) = true) : t.nesting ≠ [] := by
  obtain ⟨inner, hin, complete⟩ := scans_iff.1 whole
  obtain ⟨opened, first, rest⟩ := run_cons_iff.1 h
  obtain ⟨opened', first', rest'⟩ := run_cons_iff.1 hin
  cases first'
  by_cases ha : s.mode.AcceptsValue
  · -- The value is scanned as it is by itself, inside the containers that are open.
    have hn : s.nesting ≠ [] := ho.resolve_right (by grind [Mode.AcceptsValue])
    have around : s.step '\x7b' = some (within s.nesting ⟨.firstKey, [.object]⟩) := by
      grind [Mode.AcceptsValue, step, beginValue, isSpace, within]
    cases first.symm.trans around
    cases rest.symm.trans (run_within (.inl (List.cons_ne_nil _ _)) rest' s.nesting)
    simp [within, hn]
  · by_cases inside : s.mode.isText
    · -- The end of the value is not the end of a string, so the text around it is inside one.
      have taken : opened.mode.isText := step_inside (by decide) inside first
      have opposed : Opposed t inner :=
        Opposed.run (.inl ⟨taken, rfl⟩) (plain_step hp first) (by trivial) rest rest'
      have outside := isOutside_of_isComplete complete
      have text : t.mode.isText := by grind [Opposed, Mode.not_isText]
      refine (isOpen_run ho h).resolve_right fun hd => ?_
      rw [hd] at text
      cases text
    · have refused := step_brace hp ha (by grind [Mode.isText])
      cases first.symm.trans refused

/-! ## Carriage returns -/

theorem mode_ne_word_nil (h : s.step c = some t) : t.mode ≠ .word [] := by
  have begins : ∀ n t, beginValue n c = some t → t.mode ≠ .word [] := by
    intro n t h
    unfold beginValue at h
    split at h <;> grind
  have ends : ∀ n t, afterValue n c = some t → t.mode ≠ .word [] := by
    intro n t h
    unfold afterValue at h
    grind
  obtain ⟨m, n⟩ := s
  cases m with
  | word w => cases w <;> grind [step]
  | _ => grind [step, closeText]

/-- What may stand behind a value. -/
def separators : List Char := [' ', '\t', '\n', '\r', ',', ']', '\x7d']

theorem mem_separators (h : afterValue n c = some t) : c ∈ separators := by
  unfold afterValue at h
  grind [isSpace, separators]

/-- The first scan has seen the carriage returns, the second has not. Only a number that a carriage return has
ended is not over for the second one. -/
inductive Ahead : Scan → Scan → Prop
  | same (s : Scan) : Ahead s s
  | ended {part : NumberPart} (complete : part.isComplete = true) (n : List Bracket) :
    Ahead ⟨.done, n⟩ ⟨.number part, n⟩

theorem Ahead.step (h : Ahead s s') (hs : s.step c = some t) :
    ∃ t', s'.step c = some t' ∧ Ahead t t' := by
  cases h with
  | same => exact ⟨t, hs, .same t⟩
  | @ended part complete n =>
    refine ⟨t, ?_, .same t⟩
    have ended : part.next? c = none := by
      have each : ∀ d ∈ separators, part.next? d = none := by cases part <;> simp [separators, NumberPart.next?]
      exact each c (mem_separators hs)
    have after : afterValue n c = some t := hs
    simp [Scan.step, ended, complete, after]

/-- The other scan may stay where it is at a carriage return. -/
theorem Ahead.skip (h : Ahead s s') (hp : s.Plain) (hw : s.mode ≠ .word []) (hs : s.step '\r' = some t) :
    Ahead t s' := by
  cases h with
  | ended complete n =>
    cases hs
    exact .ended complete n
  | same =>
    obtain ⟨m, n⟩ := s
    cases m with
    | number part => cases part <;> cases hs <;> exact .ended rfl n
    | word w =>
      cases w with
      | nil => exact absurd rfl hw
      | cons l rest =>
        have letter : '\r' ≠ l := by
          rintro rfl
          exact absurd (hp _ List.mem_cons_self) (by decide)
        simp [Scan.step, letter] at hs
    | text isKey | escape isKey | hex isKey more => cases hs
    | _ =>
      cases hs
      exact .same _

theorem Ahead.run (h : Ahead s s') (hp : s.Plain) (hw : s.mode ≠ .word []) (hs : s.run cs = some t) :
    ∃ t', s'.run (cs.filter (· ≠ '\r')) = some t' ∧ Ahead t t' := by
  induction cs generalizing s s' with
  | nil =>
    cases hs
    exact ⟨s', rfl, h⟩
  | cons c cs ih =>
    obtain ⟨next, first, rest⟩ := run_cons_iff.1 hs
    by_cases hc : c = '\r'
    · subst hc
      exact ih (h.skip hp hw first) (plain_step hp first) (mode_ne_word_nil first) rest
    · obtain ⟨next', first', ahead⟩ := h.step first
      obtain ⟨t', rest', last⟩ := ih ahead (plain_step hp first) (mode_ne_word_nil first) rest
      refine ⟨t', ?_, last⟩
      rw [List.filter_cons_of_pos (by simpa using hc)]
      exact run_cons_iff.2 ⟨next', first', rest'⟩

end Scan

/-- JSON without its carriage returns is JSON. -/
theorem scans_filter (h : scans cs = true) : scans (cs.filter (· ≠ '\r')) = true := by
  obtain ⟨t, ran, complete⟩ := Scan.scans_iff.1 h
  obtain ⟨t', ran', ahead⟩ := Scan.Ahead.run (.same Scan.start) (by trivial) nofun ran
  refine Scan.scans_iff.2 ⟨t', ran', ?_⟩
  cases ahead with
  | same => exact complete
  | ended number n => grind [Scan.isComplete]

/-! ## Inner values -/

/-- Behind any bytes it does not matter whether the characters of a text are scanned or its bytes. -/
theorem scans_ofBytes_append (bytes : List UInt8) (cs : List Char) :
    scans (Scan.ofBytes (bytes ++ Text.utf8 (String.ofList cs))) = scans (Scan.ofBytes bytes ++ cs) := by
  have same : Scan.start.run (Scan.ofBytes (bytes ++ Text.utf8 (String.ofList cs))) =
      Scan.start.run (Scan.ofBytes bytes ++ cs) := by
    rw [Scan.ofBytes, List.map_append, Scan.run_append, Scan.run_append]
    refine Option.bind_congr fun s before => ?_
    exact Scan.run_ofBytes (Scan.plain_run (by trivial) before) cs
  rw [scans, scans, same]

/-- What stands in a JSON value from an inner brace on is not JSON, also without what stands behind the last
closing bracket. -/
theorem scans_inner {garbage value trailing : List Char}
    (whole : scans ('\x7b' :: garbage ++ '\x7b' :: value ++ trailing) = true)
    (closed : ∀ c ∈ trailing, ¬ Scan.IsCloser c) : scans ('\x7b' :: value) = false := by
  by_contra inner
  rw [Bool.not_eq_false] at inner
  obtain ⟨last, ran, complete⟩ := Scan.scans_iff.1 whole
  rw [List.append_assoc] at ran
  obtain ⟨s, before, ran⟩ := Scan.run_append_iff.1 ran
  obtain ⟨t, within, after⟩ := Scan.run_append_iff.1 ran
  obtain ⟨opened, first, rest⟩ := Scan.run_cons_iff.1 before
  cases first
  have isOpen : s.IsOpen := Scan.isOpen_run (.inl (List.cons_ne_nil _ _)) rest
  have plain : s.Plain := Scan.plain_run (by trivial) before
  have still := Scan.nesting_run closed (Scan.nesting_of_value plain isOpen within inner) after
  grind [Scan.isComplete]

end Telemetry.Json
