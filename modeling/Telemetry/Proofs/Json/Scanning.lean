import Telemetry.Proofs.Json.Numeral
import Telemetry.Proofs.Text.Utf8

/-!
# Scanning printed values

The scanning machine runs over a printed value from any place where a value may stand, and is then as
after a value, with the same containers open. Only a number has to be followed by something that is
not part of it. So printed values are JSON, and nothing is lost by scanning the bytes of a text in
place of its characters.
-/

namespace Telemetry.Json

/-- May a value begin here? -/
def Mode.AcceptsValue (m : Mode) : Prop := m = .value ∨ m = .firstItem

/-- What stands after a value inside a container. -/
def IsDelimiter (c : Char) : Prop := c = ',' ∨ c = ']' ∨ c = '\x7d' ∨ c = '\n'

/-- May the text stand after the value? -/
def Follows (v : Json) (rest : List Char) : Prop :=
  ∀ n, v = .number n → ∃ c cs, rest = c :: cs ∧ IsDelimiter c

theorem follows_delimiter (v : Json) {c : Char} (h : IsDelimiter c) (rest : List Char) :
    Follows v (c :: rest) := fun _ _ => ⟨c, rest, rfl, h⟩

namespace Scan

/-! ## Inside a token -/

/-- Does the character between these modes belong to the token at hand? -/
def isKept : Mode → Mode → Bool
  | .text _, .text _ | .text _, .escape _ | .escape _, _ | .hex _ _, _ | .number _, .number _ => true
  | _, _ => false

/-- From one state to the other all characters belong to the token at hand. -/
inductive Keeps : Scan → List Char → Scan → Prop
  | nil {s : Scan} : Keeps s [] s
  | cons {s next s' : Scan} {c : Char} {cs : List Char} (first : s.step c = some next)
      (kept : isKept s.mode next.mode = true) (rest : Keeps next cs s') : Keeps s (c :: cs) s'

theorem Keeps.append {s s' s'' : Scan} {cs ds : List Char} (h : Keeps s cs s')
    (h' : Keeps s' ds s'') : Keeps s (cs ++ ds) s'' := by
  induction h with
  | nil => exact h'
  | cons first kept _ ih => exact .cons first kept (ih h')

theorem Keeps.run {s s' : Scan} {cs : List Char} (h : Keeps s cs s') : s.run cs = some s' := by
  induction h with
  | nil => rfl
  | cons first _ _ ih => rw [run_cons, first, Option.bind_some, ih]

/-! ## Numbers -/

theorem keeps_number {part part' : NumberPart} {cs : List Char} (h : part.run cs = some part')
    (n : List Bracket) : Keeps ⟨.number part, n⟩ cs ⟨.number part', n⟩ := by
  induction cs generalizing part with
  | nil =>
    cases h
    exact .nil
  | cons c cs ih =>
    rw [NumberPart.run_cons] at h
    obtain ⟨next, hc, hcs⟩ := Option.bind_eq_some_iff.1 h
    have first : step ⟨.number part, n⟩ c = some ⟨.number next, n⟩ := by simp [step, hc]
    exact .cons first rfl (ih hcs)

/-- What a number begins with. -/
def IsNumberStart (c : Char) : Prop :=
  c ∈ ['-', '0', '1', '2', '3', '4', '5', '6', '7', '8', '9']

/-- The first character of a number without sign begins a value. -/
theorem step_digit {m : Mode} (hm : m.AcceptsValue) {c : Char} {part : NumberPart}
    (h : NumberPart.minus.next? c = some part) (n : List Bracket) :
    step ⟨m, n⟩ c = some ⟨.number part, n⟩ := by
  have digit := NumberPart.mem_digits_of_next? h
  simp only [List.mem_cons, List.not_mem_nil, or_false] at digit
  obtain rfl | rfl := hm <;>
    obtain rfl | rfl | rfl | rfl | rfl | rfl | rfl | rfl | rfl | rfl := digit <;> cases h <;> rfl

/-- A numeral is one token. -/
theorem exists_keeps_numeral {m : Mode} (hm : m.AcceptsValue) {cs : List Char} (h : IsNumeral cs)
    (n : List Bracket) :
    ∃ c rest first part, cs = c :: rest ∧ IsNumberStart c ∧
      step ⟨m, n⟩ c = some ⟨.number first, n⟩ ∧
      Keeps ⟨.number first, n⟩ rest ⟨.number part, n⟩ ∧ part.isComplete = true := by
  obtain ⟨part, hrun, hpart⟩ | ⟨ds, rfl, part, hrun, hpart⟩ := h
  · cases cs with
    | nil =>
      cases hrun
      cases hpart
    | cons c cs =>
      rw [NumberPart.run_cons] at hrun
      obtain ⟨next, hc, hcs⟩ := Option.bind_eq_some_iff.1 hrun
      have start : IsNumberStart c := List.mem_cons_of_mem '-' (NumberPart.mem_digits_of_next? hc)
      exact ⟨c, cs, next, part, rfl, start, step_digit hm hc n, keeps_number hcs n, hpart⟩
  · have signed : step ⟨m, n⟩ '-' = some ⟨.number .minus, n⟩ := by
      obtain rfl | rfl := hm <;> rfl
    exact ⟨'-', ds, .minus, part, rfl, List.mem_cons_self, signed, keeps_number hrun n, hpart⟩

/-- A delimiter ends a number. -/
theorem step_number_delimiter {part : NumberPart} (h : part.isComplete = true) {c : Char}
    (hc : IsDelimiter c) (n : List Bracket) :
    step ⟨.number part, n⟩ c = step ⟨.done, n⟩ c := by
  obtain rfl | rfl | rfl | rfl := hc <;> cases part <;> first | rfl | cases h

/-! ## Strings -/

theorem isHexDigit_hexDigit : ∀ k < 16, isHexDigit (Quoted.hexDigit k) = true := by decide

theorem keeps_unicodeEscape {c : Char} (h : c.toNat < 0x20) (isKey : Bool) (n : List Bracket) :
    Keeps ⟨.text isKey, n⟩ (Quoted.unicodeEscape c) ⟨.text isKey, n⟩ := by
  have digit : ∀ d more, isHexDigit d = true → step ⟨.hex isKey more, n⟩ d =
      some ⟨if more ≤ 1 then .text isKey else .hex isKey (more - 1), n⟩ := by
    intro d more hd
    simp [step, hd]
  have high := digit (Quoted.hexDigit (c.toNat / 16)) 2 (isHexDigit_hexDigit _ (by omega))
  have low := digit (Quoted.hexDigit (c.toNat % 16)) 1 (isHexDigit_hexDigit _ (by omega))
  have hex : Keeps ⟨.hex isKey 4, n⟩
      ['0', '0', Quoted.hexDigit (c.toNat / 16), Quoted.hexDigit (c.toNat % 16)] ⟨.text isKey, n⟩ :=
    .cons (digit '0' 4 rfl) rfl (.cons (digit '0' 3 rfl) rfl (.cons high rfl (.cons low rfl .nil)))
  exact .cons rfl rfl (.cons rfl rfl hex)

theorem keeps_encodeChar (c : Char) (isKey : Bool) (n : List Bracket) :
    Keeps ⟨.text isKey, n⟩ (Quoted.encodeChar c) ⟨.text isKey, n⟩ := by
  unfold Quoted.encodeChar
  split
  case h_8 hq hb _ _ _ _ _ =>
    split
    · next hc => exact keeps_unicodeEscape hc isKey n
    · next hc =>
      have first : step ⟨.text isKey, n⟩ c = some ⟨.text isKey, n⟩ := by
        simp only [step, if_neg hq, if_neg hb, if_neg hc]
      exact .cons first rfl .nil
  all_goals exact .cons rfl rfl (.cons rfl rfl .nil)

/-- An escaped text stays inside its quotes. -/
theorem keeps_encode (cs : List Char) (isKey : Bool) (n : List Bracket) :
    Keeps ⟨.text isKey, n⟩ (Quoted.encode cs) ⟨.text isKey, n⟩ := by
  induction cs with
  | nil => exact .nil
  | cons c cs ih =>
    rw [Quoted.encode, List.flatMap_cons]
    exact (keeps_encodeChar c isKey n).append ih

/-- From inside the opening quote to behind the closing one. -/
theorem run_closed (s : String) (isKey : Bool) (n : List Bracket) :
    run ⟨.text isKey, n⟩ (Quoted.encode s.toList ++ ['"']) = some (closeText isKey n) := by
  rw [run_append, (keeps_encode s.toList isKey n).run, Option.bind_some]
  rfl

/-- A key and the colon after it. -/
theorem run_key (k : String) {m : Mode} (hm : m = .firstKey ∨ m = .key) (n : List Bracket)
    (rest : List Char) :
    run ⟨m, .object :: n⟩ (stringChars k ++ ':' :: rest) = run ⟨.value, .object :: n⟩ rest := by
  have opened : step ⟨m, .object :: n⟩ '"' = some ⟨.text true, .object :: n⟩ := by
    obtain rfl | rfl := hm <;> rfl
  rw [stringChars, List.cons_append, List.cons_append, run_cons, opened, Option.bind_some,
    run_append, run_closed, Option.bind_some]
  rfl

/-! ## Values -/

mutual

/-- A printed value is scanned as one value. -/
theorem run_chars : ∀ (v : Json) (m : Mode) (n : List Bracket) (rest : List Char),
    m.AcceptsValue → Follows v rest → run ⟨m, n⟩ (chars v ++ rest) = run ⟨.done, n⟩ rest
  | .null, m, n, rest, hm, _ => by obtain rfl | rfl := hm <;> rfl
  | .bool b, m, n, rest, hm, _ => by obtain rfl | rfl := hm <;> cases b <;> rfl
  | .number x, m, n, rest, hm, hr => by
    obtain ⟨c, cs, rfl, hc⟩ := hr x rfl
    obtain ⟨d, ds, first, part, shape, -, begun, kept, complete⟩ :=
      exists_keeps_numeral hm x.isNumeral n
    rw [chars, run_append, shape, run_cons, begun, Option.bind_some, kept.run, Option.bind_some,
      run_cons, run_cons, step_number_delimiter complete hc]
  | .string s, m, n, rest, hm, _ => by
    have opened : step ⟨m, n⟩ '"' = some ⟨.text false, n⟩ := by obtain rfl | rfl := hm <;> rfl
    rw [chars, stringChars, List.cons_append, List.cons_append, run_cons, opened,
      Option.bind_some, run_append, run_closed, Option.bind_some]
    rfl
  | .array items, m, n, rest, hm, _ => by
    have opened : step ⟨m, n⟩ '[' = some ⟨.firstItem, .array :: n⟩ := by
      obtain rfl | rfl := hm <;> rfl
    rw [chars, List.cons_append, List.cons_append, run_cons, opened, Option.bind_some,
      List.append_assoc, List.singleton_append]
    exact run_itemChars items .firstItem n rest (.inr rfl) fun _ => rfl
  | .object fields, m, n, rest, hm, _ => by
    have opened : step ⟨m, n⟩ '\x7b' = some ⟨.firstKey, .object :: n⟩ := by
      obtain rfl | rfl := hm <;> rfl
    rw [chars, List.cons_append, List.cons_append, run_cons, opened, Option.bind_some,
      List.append_assoc, List.singleton_append]
    exact run_fieldChars fields .firstKey n rest (.inl rfl) fun _ => rfl

/-- The items of an array, from a place where one may stand to behind the array. -/
theorem run_itemChars : ∀ (items : List Json) (m : Mode) (n : List Bracket) (rest : List Char),
    m.AcceptsValue → (items = [] → m = .firstItem) →
      run ⟨m, .array :: n⟩ (itemChars items ++ ']' :: rest) = run ⟨.done, n⟩ rest
  | [], m, n, rest, _, he => by rw [he rfl]; rfl
  | [v], m, n, rest, hm, _ => by
    rw [itemChars, run_chars v m _ _ hm (follows_delimiter v (.inr (.inl rfl)) rest)]
    rfl
  | v :: w :: items, m, n, rest, hm, _ => by
    rw [itemChars, List.append_assoc, List.cons_append,
      run_chars v m _ _ hm (follows_delimiter v (.inl rfl) _)]
    exact run_itemChars (w :: items) .value n rest (.inl rfl) nofun

/-- The fields of an object, from a place where a key may stand to behind the object. -/
theorem run_fieldChars : ∀ (fields : List (String × Json)) (m : Mode) (n : List Bracket)
    (rest : List Char), m = .firstKey ∨ m = .key → (fields = [] → m = .firstKey) →
      run ⟨m, .object :: n⟩ (fieldChars fields ++ '\x7d' :: rest) = run ⟨.done, n⟩ rest
  | [], m, n, rest, _, he => by rw [he rfl]; rfl
  | [(k, v)], m, n, rest, hm, _ => by
    rw [fieldChars, List.append_assoc, List.cons_append, run_key k hm,
      run_chars v .value _ _ (.inl rfl) (follows_delimiter v (.inr (.inr (.inl rfl))) rest)]
    rfl
  | (k, v) :: f :: fields, m, n, rest, hm, _ => by
    rw [fieldChars, List.append_assoc, List.append_assoc, List.cons_append, List.cons_append,
      run_key k hm, run_chars v .value _ _ (.inl rfl) (follows_delimiter v (.inl rfl) _)]
    exact run_fieldChars (f :: fields) .key n rest (.inr rfl) nofun

end

/-! ## Bytes in place of characters -/

/-- What still completes a word are letters. -/
def Plain (s : Scan) : Prop :=
  match s.mode with
  | .word w => ∀ c ∈ w, c.isAlpha = true
  | _ => True

theorem plain_beginValue {n : List Bracket} {c : Char} {s : Scan} (h : beginValue n c = some s) :
    Plain s := by
  unfold beginValue at h
  split at h
  case h_4 | h_5 | h_6 =>
    cases h
    change ∀ c ∈ _, _
    simp
  case h_9 =>
    split at h
    · cases h
      trivial
    · cases h
  all_goals
    cases h
    trivial

theorem plain_afterValue {n : List Bracket} {c : Char} {s : Scan} (h : afterValue n c = some s) :
    Plain s := by
  unfold afterValue at h
  split at h
  · cases h
    trivial
  · split at h <;> cases h <;> trivial

theorem plain_step {s t : Scan} {c : Char} (hs : s.Plain) (h : s.step c = some t) : t.Plain := by
  obtain ⟨m, n⟩ := s
  cases m with
  | value | firstItem =>
    simp only [step] at h
    repeat' split at h
    all_goals
      first
      | exact plain_beginValue h
      | cases h; trivial
  | done => exact plain_afterValue h
  | word w =>
    cases w with
    | nil => exact plain_afterValue h
    | cons l rest =>
      simp only [step] at h
      split at h
      · cases h
        unfold Plain
        split
        · next w hw =>
          dsimp only at hw
          split at hw
          · cases hw
          · cases hw
            exact fun c hc => hs c (List.mem_cons_of_mem l hc)
        · trivial
      · cases h
  | number part =>
    simp only [step] at h
    repeat' split at h
    · cases h; trivial
    · exact plain_afterValue h
    · cases h
  | text isKey | escape isKey | hex isKey more | firstKey | key | colon =>
    simp only [step, closeText] at h
    repeat' split at h
    all_goals
      first
      | cases h; trivial
      | cases h

theorem plain_run {s t : Scan} {cs : List Char} (hs : s.Plain) (h : s.run cs = some t) :
    t.Plain := by
  induction cs generalizing s with
  | nil => cases h; exact hs
  | cons c cs ih =>
    obtain ⟨next, first, rest⟩ := Option.bind_eq_some_iff.1 h
    exact ih (plain_step hs first) rest

theorem lt_of_isAlpha {c : Char} (h : c.isAlpha = true) : c.toNat < 128 := by
  have cases : c.isUpper = true ∨ c.isLower = true := (Bool.or_eq_true _ _).mp h
  obtain upper | lower := cases
  · have last : c.val ≤ 'Z'.val := (of_decide_eq_true upper).2
    exact Nat.lt_of_le_of_lt (UInt32.le_iff_toNat_le.1 last) (by decide)
  · have last : c.val ≤ 'z'.val := of_decide_eq_true ((Bool.and_eq_true _ _).mp lower).2
    exact Nat.lt_of_le_of_lt (UInt32.le_iff_toNat_le.1 last) (by decide)

section Wide

/-! Outside a string nothing but ASCII is accepted. -/

variable {c : Char}

theorem ne_of_wide (hc : 128 ≤ c.toNat) {d : Char} (hd : d.toNat < 128) : c ≠ d := by
  rintro rfl
  omega

theorem isDigit_wide (hc : 128 ≤ c.toNat) : c.isDigit = false := by
  simp only [Char.isDigit, ge_iff_le, Bool.and_eq_false_iff, decide_eq_false_iff_not,
    UInt32.le_iff_toNat_le]
  right
  change ¬ c.toNat ≤ 57
  omega

theorem isHexDigit_wide (hc : 128 ≤ c.toNat) : isHexDigit c = false := by
  have upTo : ∀ d : Char, d.toNat < 128 → ¬ c ≤ d := by
    intro d hd
    rw [Char.le_def, UInt32.le_iff_toNat_le]
    change ¬ c.toNat ≤ d.toNat
    omega
  simp [isHexDigit, isDigit_wide hc, upTo 'f' (by decide), upTo 'F' (by decide)]

theorem isSpace_wide (hc : 128 ≤ c.toNat) : isSpace c = false := by
  have ne := fun d => ne_of_wide hc (d := d)
  simp [isSpace, ne ' ' (by decide), ne '\t' (by decide), ne '\n' (by decide), ne '\r' (by decide)]

theorem beginValue_wide (hc : 128 ≤ c.toNat) (n : List Bracket) : beginValue n c = none := by
  unfold beginValue
  split <;> first | exact absurd rfl (ne_of_wide hc (by decide)) | simp [isDigit_wide hc]

theorem afterValue_wide (hc : 128 ≤ c.toNat) (n : List Bracket) : afterValue n c = none := by
  unfold afterValue
  rw [isSpace_wide hc, if_neg (by decide)]
  split <;> first | exact absurd rfl (ne_of_wide hc (by decide)) | rfl

theorem next?_wide (hc : 128 ≤ c.toNat) (part : NumberPart) : part.next? c = none := by
  have ne := fun d => ne_of_wide hc (d := d)
  cases part <;> simp [NumberPart.next?, isDigit_wide hc, ne '0' (by decide), ne '.' (by decide),
    ne 'e' (by decide), ne 'E' (by decide), ne '+' (by decide), ne '-' (by decide)]

theorem step_wide {s : Scan} (hs : s.Plain) (hc : 128 ≤ c.toNat) :
    s.step c = match s.mode with
      | .text _ => some s
      | _ => none := by
  have ne := fun d => ne_of_wide hc (d := d)
  have space := isSpace_wide hc
  have begins := beginValue_wide hc
  have after := afterValue_wide hc
  obtain ⟨m, n⟩ := s
  cases m with
  | value => simp [step, space, begins]
  | firstItem => simp [step, space, begins, ne ']' (by decide)]
  | firstKey => simp [step, space, ne '\x7d' (by decide), ne '"' (by decide)]
  | key => simp [step, space, ne '"' (by decide)]
  | colon => simp [step, space, ne ':' (by decide)]
  | done => exact after n
  | text isKey =>
    have large : ¬ c.toNat < 0x20 := by omega
    simp [step, ne '"' (by decide), ne '\\' (by decide), large]
  | escape isKey =>
    have unknown : c ∉ ['"', '\\', '/', 'b', 'f', 'n', 'r', 't'] := by
      intro h
      simp only [List.mem_cons, List.not_mem_nil, or_false] at h
      obtain h | h | h | h | h | h | h | h := h <;> exact ne _ (by decide) h
    simp only [step, if_neg (ne 'u' (by decide)), if_neg unknown]
  | hex isKey more => simp [step, isHexDigit_wide hc]
  | word w =>
    cases w with
    | nil => exact after n
    | cons l rest => simp [step, ne l (lt_of_isAlpha (hs l List.mem_cons_self))]
  | number p => simp [step, next?_wide hc, after]

end Wide

theorem run_wide {s : Scan} (hs : s.Plain) {cs : List Char} (hne : cs ≠ [])
    (hc : ∀ c ∈ cs, 128 ≤ c.toNat) :
    s.run cs = match s.mode with
      | .text _ => some s
      | _ => none := by
  obtain ⟨m, n⟩ := s
  cases cs with
  | nil => exact absurd rfl hne
  | cons c cs =>
    rw [run_cons, step_wide hs (hc c List.mem_cons_self)]
    have rest := fun d hd => hc d (List.mem_cons_of_mem c hd)
    clear hne hc
    cases m with
    | text isKey =>
      rw [Option.bind_some]
      induction cs with
      | nil => rfl
      | cons d cs ih =>
        rw [run_cons, step_wide hs (rest d List.mem_cons_self), Option.bind_some]
        exact ih fun e he => rest e (List.mem_cons_of_mem d he)
    | _ => rfl

/-- Each byte as one character. -/
def ofBytes (bytes : List UInt8) : List Char := bytes.map fun b => Char.ofNat b.toNat

theorem toNat_ofNat {n : Nat} (h : n < 256) : (Char.ofNat n).toNat = n := by
  rw [Char.ofNat, dif_pos (Or.inl (by omega))]
  rfl

theorem run_encoded {s : Scan} (hs : s.Plain) (c : Char) :
    s.run (ofBytes (String.utf8EncodeChar c)) = s.step c := by
  by_cases hc : c.toNat < 128
  · have byte : (UInt8.ofNat c.toNat).toNat = c.toNat := by
      rw [UInt8.toNat_ofNat', Nat.mod_eq_of_lt (by omega)]
    rw [Text.encodeChar_ascii hc, ofBytes, List.map_singleton, byte, Char.ofNat_toNat, run_cons]
    exact Option.bind_fun_some _
  · have wide : 128 ≤ c.toNat := by omega
    rw [step_wide hs wide]
    apply run_wide hs
    · simp [ofBytes, String.utf8EncodeChar_ne_nil]
    · intro d hd
      obtain ⟨b, hb, rfl⟩ := List.mem_map.1 hd
      rw [toNat_ofNat b.toNat_lt]
      exact Text.encodeChar_wide wide b hb

/-- The bytes of a text are scanned as its characters are. -/
theorem run_ofBytes {s : Scan} (hs : s.Plain) (cs : List Char) :
    s.run (ofBytes (Text.utf8 (String.ofList cs))) = s.run cs := by
  rw [Text.utf8_ofList]
  induction cs generalizing s with
  | nil => rfl
  | cons c cs ih =>
    have split : ofBytes ((c :: cs).flatMap String.utf8EncodeChar) =
        ofBytes (String.utf8EncodeChar c) ++ ofBytes (cs.flatMap String.utf8EncodeChar) := by
      simp [ofBytes]
    rw [split, run_append, run_encoded hs, run_cons]
    cases ht : s.step c with
    | none => rfl
    | some t => exact ih (plain_step hs ht)

end Scan

theorem isJson_utf8 (cs : List Char) : isJson (Text.utf8 (String.ofList cs)) = scans cs := by
  have same : Scan.start.run ((Text.utf8 (String.ofList cs)).map fun b => Char.ofNat b.toNat) =
      Scan.start.run cs := Scan.run_ofBytes (s := .start) trivial cs
  rw [isJson_eq_scans, scans, scans, same]

/-- A printed value is JSON. Only a number would have to be followed by something to be closed. -/
theorem isJson_render {v : Json} (h : ∀ n, v ≠ .number n) : isJson (Text.utf8 v.render) = true := by
  have read := Scan.run_chars v .value [] [] (.inl rfl) fun n hn => absurd hn (h n)
  rw [List.append_nil] at read
  rw [render, isJson_utf8, scans, Scan.start, read]
  rfl

end Telemetry.Json
