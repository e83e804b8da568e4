import Telemetry.Proofs.Json.Scanning

/-!
# Objects behind an opening brace

A text that begins with a brace and ends with a printed object is not JSON if anything stands in front of
the object. Either the object lies in a container that is not closed, or its first brace is not
expected, or it is in a string that its first quote closes, and then its first key is not expected.
-/

namespace Telemetry.Json

namespace Scan

/-- Some container is open, or a value has ended. -/
def IsOpen (s : Scan) : Prop := s.nesting ≠ [] ∨ s.mode = .done

theorem isOpen_beginValue {n : List Bracket} {c : Char} {t : Scan} (hn : n ≠ [])
    (h : beginValue n c = some t) : t.IsOpen := by
  unfold beginValue at h
  split at h
  case h_9 =>
    split at h
    · cases h
      exact .inl hn
    · cases h
  all_goals
    cases h
    exact .inl (by simp [hn])

theorem isOpen_afterValue {n : List Bracket} {c : Char} {t : Scan}
    (h : afterValue n c = some t) : t.IsOpen := by
  unfold afterValue at h
  split at h
  · cases h
    exact .inr rfl
  · split at h <;> cases h
    · exact .inl (List.cons_ne_nil _ _)
    · exact .inr rfl
    · exact .inl (List.cons_ne_nil _ _)
    · exact .inr rfl

theorem isOpen_step {s t : Scan} {c : Char} (hs : s.IsOpen) (h : s.step c = some t) :
    t.IsOpen := by
  obtain ⟨m, n⟩ := s
  cases m with
  | done => exact isOpen_afterValue h
  | value | firstItem =>
    have hn : n ≠ [] := hs.resolve_right (by simp)
    simp only [step] at h
    repeat' split at h
    all_goals
      first
      | exact isOpen_beginValue hn h
      | cases h; exact .inl hn
      | cases h; exact .inr rfl
  | word w =>
    have hn : n ≠ [] := hs.resolve_right (by simp)
    cases w with
    | nil => exact isOpen_afterValue h
    | cons l rest =>
      simp only [step] at h
      split at h
      · cases h
        exact .inl hn
      · cases h
  | number part =>
    have hn : n ≠ [] := hs.resolve_right (by simp)
    simp only [step] at h
    repeat' split at h
    · cases h
      exact .inl hn
    · exact isOpen_afterValue h
    · cases h
  | text isKey | escape isKey | hex isKey more | firstKey | key | colon =>
    have hn : n ≠ [] := hs.resolve_right (by simp)
    simp only [step, closeText] at h
    repeat' split at h
    all_goals
      first
      | cases h; exact .inl hn
      | cases h; exact .inr rfl
      | cases h

theorem isOpen_run {s t : Scan} {cs : List Char} (hs : s.IsOpen) (h : s.run cs = some t) :
    t.IsOpen := by
  induction cs generalizing s with
  | nil => cases h; exact hs
  | cons c cs ih =>
    obtain ⟨next, first, rest⟩ := Option.bind_eq_some_iff.1 h
    exact ih (isOpen_step hs first) rest

/-- A brace is accepted where a value may begin, and in a string. -/
theorem step_brace {s : Scan} (hs : s.Plain) (ha : ¬ s.mode.AcceptsValue)
    (ht : ∀ isKey, s.mode ≠ .text isKey) : s.step '\x7b' = none := by
  have after : ∀ n, afterValue n '\x7b' = none := by
    intro n
    cases n with
    | nil => rfl
    | cons b n => cases b <;> rfl
  obtain ⟨m, n⟩ := s
  cases m with
  | value => exact absurd (.inl rfl) ha
  | firstItem => exact absurd (.inr rfl) ha
  | text isKey => exact absurd rfl (ht isKey)
  | done => exact after n
  | word w =>
    cases w with
    | nil => exact after n
    | cons l rest =>
      have letter : '\x7b' ≠ l := by
        rintro rfl
        exact absurd (hs _ List.mem_cons_self) (by decide)
      simp [step, letter]
  | number part => cases part <;> simp [step, NumberPart.next?, after]
  | escape isKey | hex isKey more | firstKey | key | colon => rfl

/-- A string that takes in a brace is closed by the quote after it, and no letter may follow. -/
theorem run_text_brace {c : Char} (hc : c.isAlpha = true) (isKey : Bool) (n : List Bracket)
    (rest : List Char) : run ⟨.text isKey, n⟩ ('\x7b' :: '"' :: c :: rest) = none := by
  have ne : ∀ d : Char, d.isAlpha = false → c ≠ d := by
    rintro d hd rfl
    rw [hd] at hc
    cases hc
  have space : isSpace c = false := by
    simp [isSpace, ne ' ' (by decide), ne '\t' (by decide), ne '\n' (by decide), ne '\r' (by decide)]
  have after : afterValue n c = none := by
    unfold afterValue
    rw [space, if_neg (by decide)]
    split <;> first | exact absurd rfl (ne _ (by decide)) | rfl
  have stopped : step (closeText isKey n) c = none := by
    cases isKey
    · exact after
    · simp [step, closeText, space, ne ':' (by decide)]
  have taken : run ⟨.text isKey, n⟩ ['\x7b', '"'] = some (closeText isKey n) := rfl
  have split : '\x7b' :: '"' :: c :: rest = ['\x7b', '"'] ++ c :: rest := rfl
  rw [split, run_append, taken, Option.bind_some, run_cons, stopped, Option.bind_none]

/-- No printed object completes a text that is open. -/
theorem not_isComplete_run {s t : Scan} (hp : s.Plain) (ho : s.IsOpen) {k : String} {c : Char}
    {cs : List Char} (hk : Quoted.encode k.toList = c :: cs) (hc : c.isAlpha = true) {v : Json}
    {fields : List (String × Json)}
    (h : s.run (chars (.object ((k, v) :: fields))) = some t) : t.isComplete = false := by
  obtain ⟨rest, shape⟩ : ∃ rest, chars (.object ((k, v) :: fields)) = '\x7b' :: '"' :: c :: rest := by
    cases fields <;> simp [chars, fieldChars, stringChars, hk]
  by_cases ha : s.mode.AcceptsValue
  · have read := run_chars (.object ((k, v) :: fields)) s.mode s.nesting [] ha nofun
    rw [List.append_nil] at read
    cases h.symm.trans read
    have hn : s.nesting ≠ [] := by
      refine ho.resolve_right fun hd => ?_
      rw [hd] at ha
      obtain ha | ha := ha <;> cases ha
    simp [isComplete, hn]
  · exfalso
    rw [shape] at h
    obtain ⟨m, n⟩ := s
    cases m with
    | text isKey =>
      rw [run_text_brace hc] at h
      cases h
    | _ =>
      rw [run_cons, step_brace hp ha (fun _ => nofun)] at h
      cases h

end Scan

theorem scans_eq_false {cs : List Char}
    (h : ∀ s, Scan.start.run cs = some s → s.isComplete = false) : scans cs = false := by
  unfold scans
  split
  · next s ran => exact h s ran
  · rfl

/-- A printed object behind anything that begins with a brace does not make JSON. -/
theorem not_isJson_append {k : String} {c : Char} {cs : List Char}
    (hk : Quoted.encode k.toList = c :: cs) (hc : c.isAlpha = true) (v : Json)
    (fields : List (String × Json)) (garbage : List UInt8) :
    isJson (123 :: garbage ++ Text.utf8 (render (.object ((k, v) :: fields)))) = false := by
  rw [isJson_eq_scans, List.map_append, List.map_cons]
  refine scans_eq_false fun t ran => ?_
  have first : Scan.start.step '\x7b' = some ⟨.firstKey, [.object]⟩ := rfl
  change Scan.run Scan.start ('\x7b' :: Scan.ofBytes garbage ++ Scan.ofBytes _) = some t at ran
  rw [List.cons_append, Scan.run_cons, first, Option.bind_some, Scan.run_append] at ran
  obtain ⟨s, hg, ht⟩ := Option.bind_eq_some_iff.1 ran
  have plain : s.Plain := Scan.plain_run (by trivial) hg
  have isOpen : s.IsOpen := Scan.isOpen_run (.inl (List.cons_ne_nil _ _)) hg
  rw [render, Scan.run_ofBytes plain] at ht
  exact Scan.not_isComplete_run plain isOpen hk hc ht

end Telemetry.Json
