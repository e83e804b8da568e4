import Telemetry.Proofs.Json.Scanning
import Telemetry.Proofs.Json.Shape
import Telemetry.Proofs.Json.Tokens

/-!
# Printed values are read back

The reader runs over a printed value as the scanning machine does, and hands the value to the innermost
container. Numbers have to be ones that are read back, and no more than `maxDepth` containers may be open.
A value with more of them is refused.
-/

namespace Telemetry.Json

/-- Each number in the value is read back as it is printed. -/
def IsFaithful (v : Json) : Prop := ∀ n, Part (.number n) v → Number.ofChars? n.chars = some n

theorem IsFaithful.part {v w : Json} (h : v.IsFaithful) (hw : Part w v) : w.IsFaithful :=
  fun n hn => h n (hn.trans hw)

theorem IsIntegral.isFaithful {v : Json} (h : v.IsIntegral) (he : v.IsExact) : v.IsFaithful := by
  intro n hn
  obtain ⟨i, rfl⟩ := h n hn
  exact Number.ofChars?_int (he i hn)

namespace Reader

variable (gather : List (String × Json) → List (String × Json))

@[simp] theorem run_nil (r : Reader) : run gather r [] = some r := rfl

@[simp] theorem run_cons (r : Reader) (c : Char) (cs : List Char) :
    run gather r (c :: cs) = (step gather r c).bind fun s => run gather s cs := rfl

theorem run_append (r : Reader) (a b : List Char) :
    run gather r (a ++ b) = (run gather r a).bind fun s => run gather s b := by
  simp [run, List.foldlM_append]

variable (n : List Bracket) (t : List Char) (fs : List Frame) (res : Option Json)

/-! ## Tokens -/

/-- Inside a token the reader collects the characters. -/
theorem run_keeps {s s' : Scan} {cs : List Char} (h : s.Keeps cs s') :
    run gather ⟨s, t, fs, res⟩ cs = some ⟨s', cs.reverse ++ t, fs, res⟩ := by
  induction h generalizing t with
  | nil => rfl
  | @cons s next s' c cs first kept _ ih =>
    have collected : step gather ⟨s, t, fs, res⟩ c = some ⟨next, c :: t, fs, res⟩ := by
      obtain ⟨before, n⟩ := s
      obtain ⟨after, n'⟩ := next
      simp only [step, first]
      cases before <;> cases after <;> first | rfl | cases kept
    rw [run_cons, collected, Option.bind_some, ih, List.reverse_cons, List.append_assoc]
    rfl

/-- A number begins a token. -/
theorem step_number {m : Mode} (hm : m.AcceptsValue) {c : Char} (hc : Scan.IsNumberStart c)
    {part : NumberPart} (h : Scan.step ⟨m, n⟩ c = some ⟨.number part, n⟩) :
    step gather ⟨⟨m, n⟩, t, fs, res⟩ c = some ⟨⟨.number part, n⟩, [c], fs, res⟩ := by
  simp only [Scan.IsNumberStart, List.mem_cons, List.not_mem_nil, or_false] at hc
  simp only [step, h]
  obtain rfl | rfl := hm <;>
    obtain rfl | rfl | rfl | rfl | rfl | rfl | rfl | rfl | rfl | rfl | rfl := hc <;> rfl

/-! ## Numbers -/

@[simp] theorem deliver_scan (v : Json) (r : Reader) : (r.deliver v).scan = r.scan := by
  obtain ⟨scan, t, fs, res⟩ := r
  cases fs with
  | nil => rfl
  | cons f fs => cases f <;> rfl

theorem deliver_moved (v : Json) (r : Reader) (scan : Scan) :
    { r.deliver v with scan } = deliver v { r with scan } := by
  obtain ⟨s, t, fs, res⟩ := r
  cases fs with
  | nil => rfl
  | cons f fs => cases f <;> rfl

/-- A delimiter ends a number, and the number is handed over before it. -/
theorem step_delimiter {part : NumberPart} (h : part.isComplete = true) {c : Char}
    (hc : IsDelimiter c) {x : Number} (hx : Number.ofChars? t.reverse = some x) :
    step gather ⟨⟨.number part, n⟩, t, fs, res⟩ c =
      step gather (deliver (.number x) ⟨⟨.done, n⟩, t, fs, res⟩) c := by
  have scanned := Scan.step_number_delimiter h hc n
  have closed : ∀ scan, closeNumber ⟨scan, t, fs, res⟩ =
      some (deliver (.number x) ⟨scan, t, fs, res⟩) := by
    intro scan
    simp [closeNumber, hx]
  simp only [step, deliver_scan, deliver_moved, scanned]
  obtain rfl | rfl | rfl | rfl := hc <;> obtain _ | ⟨_ | _, outer⟩ := n <;>
    first
    | rfl
    | (simp only [Scan.step, Scan.afterValue, closed]; rfl)

/-! ## Strings -/

/-- A string that stands as a value, from behind its opening quote. -/
theorem run_closed (s : String) :
    ∃ t', run gather ⟨⟨.text false, n⟩, [], fs, res⟩ (Quoted.encode s.toList ++ ['"']) =
      some (deliver (.string s) ⟨⟨.done, n⟩, t', fs, res⟩) := by
  refine ⟨(Quoted.encode s.toList).reverse, ?_⟩
  have decoded := Quoted.decode_encode s.toList
  rw [run_append, run_keeps gather [] fs res (Scan.keeps_encode s.toList false n), Option.bind_some,
    run_cons]
  simp [step, Scan.step, Scan.closeText, closeText, decoded]

/-- A key and the colon after it. -/
theorem run_key (k : String) {m : Mode} (hm : m = .firstKey ∨ m = .key)
    (fields : List (String × Json)) (last : String) (rest : List Char) :
    ∃ t', run gather ⟨⟨m, .object :: n⟩, t, .object fields last :: fs, res⟩
        (stringChars k ++ ':' :: rest) =
      run gather ⟨⟨.value, .object :: n⟩, t', .object fields k :: fs, res⟩ rest := by
  refine ⟨(Quoted.encode k.toList).reverse, ?_⟩
  have decoded := Quoted.decode_encode k.toList
  have opened : step gather ⟨⟨m, .object :: n⟩, t, .object fields last :: fs, res⟩ '"' =
      some ⟨⟨.text true, .object :: n⟩, [], .object fields last :: fs, res⟩ := by
    obtain rfl | rfl := hm <;> rfl
  have closed : step gather ⟨⟨.text true, .object :: n⟩, (Quoted.encode k.toList).reverse,
      .object fields last :: fs, res⟩ '"' =
        some ⟨⟨.colon, .object :: n⟩, (Quoted.encode k.toList).reverse,
          .object fields k :: fs, res⟩ := by
    simp [step, Scan.step, Scan.closeText, closeText, decoded, setKey]
  rw [stringChars, List.cons_append, List.cons_append, run_cons, opened, Option.bind_some,
    List.append_assoc, run_append,
    run_keeps gather [] _ res (Scan.keeps_encode k.toList true (.object :: n)), Option.bind_some,
    List.append_nil, List.singleton_append, run_cons, closed]
  rfl

/-! ## Values -/

theorem step_openArray {m : Mode} (hm : m.AcceptsValue) :
    step gather ⟨⟨m, n⟩, t, fs, res⟩ '[' =
      if fs.length < maxDepth then some ⟨⟨.firstItem, .array :: n⟩, t, .array [] :: fs, res⟩
      else none := by
  obtain rfl | rfl := hm <;> rfl

theorem step_openObject {m : Mode} (hm : m.AcceptsValue) :
    step gather ⟨⟨m, n⟩, t, fs, res⟩ '\x7b' =
      if fs.length < maxDepth then some ⟨⟨.firstKey, .object :: n⟩, t, .object [] "" :: fs, res⟩
      else none := by
  obtain rfl | rfl := hm <;> rfl

theorem fieldChars_append (k : String) (v : Json) (f : String × Json) (fields : List (String × Json))
    (rest : List Char) : fieldChars ((k, v) :: f :: fields) ++ rest =
      stringChars k ++ ':' :: (chars v ++ (',' :: fieldChars (f :: fields) ++ rest)) := by
  simp [fieldChars]

mutual

/-- A printed value is handed to the innermost container. -/
theorem run_chars : ∀ (v : Json) (m : Mode) (n : List Bracket) (t : List Char) (fs : List Frame)
    (res : Option Json) (rest : List Char), m.AcceptsValue → Follows v rest → v.IsFaithful →
    fs.length + v.depth ≤ maxDepth →
    ∃ t', run gather ⟨⟨m, n⟩, t, fs, res⟩ (chars v ++ rest) =
      run gather (deliver (v.gathered gather) ⟨⟨.done, n⟩, t', fs, res⟩) rest
  | .null, m, n, t, fs, res, rest, hm, _, _, _ => by
    refine ⟨"lun".toList, ?_⟩
    obtain rfl | rfl := hm <;> rfl
  | .bool b, m, n, t, fs, res, rest, hm, _, _, _ => by
    refine ⟨if b then "urt".toList else "slaf".toList, ?_⟩
    obtain rfl | rfl := hm <;> cases b <;> rfl
  | .number x, m, n, t, fs, res, rest, hm, hr, hf, _ => by
    obtain ⟨c, cs, rfl, hc⟩ := hr x rfl
    obtain ⟨d, ds, first, part, shape, start, begun, kept, complete⟩ :=
      Scan.exists_keeps_numeral hm x.isNumeral n
    have read : Number.ofChars? (ds.reverse ++ [d]).reverse = some x := by
      rw [List.reverse_append, List.reverse_reverse, List.reverse_singleton, List.singleton_append,
        ← shape]
      exact hf x .whole
    refine ⟨ds.reverse ++ [d], ?_⟩
    rw [chars, run_append, shape, run_cons, step_number gather n t fs res hm start begun,
      Option.bind_some, run_keeps gather [d] fs res kept, Option.bind_some, run_cons,
      step_delimiter gather n _ fs res complete hc read]
    rfl
  | .string s, m, n, t, fs, res, rest, hm, _, _, _ => by
    obtain ⟨t', closed⟩ := run_closed gather n fs res s
    have opened : step gather ⟨⟨m, n⟩, t, fs, res⟩ '"' = some ⟨⟨.text false, n⟩, [], fs, res⟩ := by
      obtain rfl | rfl := hm <;> rfl
    refine ⟨t', ?_⟩
    rw [chars, stringChars, List.cons_append, List.cons_append, run_cons, opened,
      Option.bind_some, run_append, closed, Option.bind_some]
    rfl
  | .array items, m, n, t, fs, res, rest, hm, _, hf, hd => by
    rw [depth] at hd
    have opened := step_openArray gather n t fs res hm
    rw [if_pos (by omega)] at opened
    have faithful : ∀ v ∈ items, v.IsFaithful := fun v hv => hf.part (part_item hv)
    have deep := itemDepth_le.1 (show itemDepth items ≤ maxDepth - (fs.length + 1) by omega)
    obtain ⟨t', read⟩ := run_itemChars items .firstItem n t [] fs res rest (.inr rfl)
      (fun _ => rfl) faithful (fun v hv => by have := deep v hv; omega)
    refine ⟨t', ?_⟩
    rw [chars, List.cons_append, List.cons_append, run_cons, opened, Option.bind_some,
      List.append_assoc, List.singleton_append, read]
    rfl
  | .object fields, m, n, t, fs, res, rest, hm, _, hf, hd => by
    rw [depth] at hd
    have opened := step_openObject gather n t fs res hm
    rw [if_pos (by omega)] at opened
    have faithful : ∀ f ∈ fields, IsFaithful f.2 := fun f hv => hf.part (part_field hv)
    have deep := fieldDepth_le.1 (show fieldDepth fields ≤ maxDepth - (fs.length + 1) by omega)
    obtain ⟨t', read⟩ := run_fieldChars fields .firstKey n t [] "" fs res rest (.inl rfl)
      (fun _ => rfl) faithful (fun f hv => by have := deep f hv; omega)
    refine ⟨t', ?_⟩
    rw [chars, List.cons_append, List.cons_append, run_cons, opened, Option.bind_some,
      List.append_assoc, List.singleton_append, read]
    rfl

/-- The items of an array, from a place where one may stand to behind the array. -/
theorem run_itemChars : ∀ (items : List Json) (m : Mode) (n : List Bracket) (t : List Char)
    (before : List Json) (fs : List Frame) (res : Option Json) (rest : List Char),
    m.AcceptsValue → (items = [] → m = .firstItem) → (∀ v ∈ items, v.IsFaithful) →
    (∀ v ∈ items, fs.length + 1 + v.depth ≤ maxDepth) →
    ∃ t', run gather ⟨⟨m, .array :: n⟩, t, .array before :: fs, res⟩ (itemChars items ++ ']' :: rest) =
      run gather (deliver (.array (before.reverse ++ gatheredItems gather items))
        ⟨⟨.done, n⟩, t', fs, res⟩) rest
  | [], m, n, t, before, fs, res, rest, _, he, _, _ => by
    refine ⟨t, ?_⟩
    rw [he rfl, gatheredItems, List.append_nil]
    rfl
  | [v], m, n, t, before, fs, res, rest, hm, _, hf, hd => by
    obtain ⟨t', read⟩ := run_chars v m (.array :: n) t (.array before :: fs) res (']' :: rest) hm
      (follows_delimiter v (.inr (.inl rfl)) rest) (hf v List.mem_cons_self)
      (hd v List.mem_cons_self)
    refine ⟨t', ?_⟩
    rw [itemChars, read, gatheredItems, gatheredItems, ← List.reverse_cons]
    rfl
  | v :: w :: items, m, n, t, before, fs, res, rest, hm, _, hf, hd => by
    obtain ⟨t₁, first⟩ := run_chars v m (.array :: n) t (.array before :: fs) res
      (',' :: itemChars (w :: items) ++ ']' :: rest) hm (follows_delimiter v (.inl rfl) _)
      (hf v List.mem_cons_self) (hd v List.mem_cons_self)
    obtain ⟨t', others⟩ := run_itemChars (w :: items) .value n t₁ (v.gathered gather :: before) fs res
      rest (.inl rfl) nofun (fun u hu => hf u (List.mem_cons_of_mem v hu))
      (fun u hu => hd u (List.mem_cons_of_mem v hu))
    refine ⟨t', ?_⟩
    rw [itemChars, List.append_assoc, first, gatheredItems]
    rw [List.reverse_cons, List.append_assoc, List.singleton_append] at others
    exact others

/-- The fields of an object, from a place where a key may stand to behind the object. -/
theorem run_fieldChars : ∀ (fields : List (String × Json)) (m : Mode) (n : List Bracket)
    (t : List Char) (before : List (String × Json)) (last : String) (fs : List Frame)
    (res : Option Json) (rest : List Char),
    m = .firstKey ∨ m = .key → (fields = [] → m = .firstKey) →
    (∀ f ∈ fields, IsFaithful f.2) → (∀ f ∈ fields, fs.length + 1 + f.2.depth ≤ maxDepth) →
    ∃ t', run gather ⟨⟨m, .object :: n⟩, t, .object before last :: fs, res⟩
        (fieldChars fields ++ '\x7d' :: rest) =
      run gather (deliver (.object (gather (before.reverse ++ gatheredFields gather fields)))
        ⟨⟨.done, n⟩, t', fs, res⟩) rest
  | [], m, n, t, before, last, fs, res, rest, _, he, _, _ => by
    refine ⟨t, ?_⟩
    rw [he rfl, gatheredFields, List.append_nil]
    rfl
  | [(k, v)], m, n, t, before, last, fs, res, rest, hm, _, hf, hd => by
    obtain ⟨t₁, key⟩ := run_key gather n t fs res k hm before last (chars v ++ '\x7d' :: rest)
    obtain ⟨t', read⟩ := run_chars v .value (.object :: n) t₁ (.object before k :: fs) res
      ('\x7d' :: rest) (.inl rfl) (follows_delimiter v (.inr (.inr (.inl rfl))) rest)
      (hf (k, v) List.mem_cons_self) (hd (k, v) List.mem_cons_self)
    refine ⟨t', ?_⟩
    rw [fieldChars, List.append_assoc, List.cons_append, key, read, gatheredFields, gatheredFields,
      ← List.reverse_cons]
    rfl
  | (k, v) :: f :: fields, m, n, t, before, last, fs, res, rest, hm, _, hf, hd => by
    obtain ⟨t₁, key⟩ := run_key gather n t fs res k hm before last
      (chars v ++ (',' :: fieldChars (f :: fields) ++ '\x7d' :: rest))
    obtain ⟨t₂, first⟩ := run_chars v .value (.object :: n) t₁ (.object before k :: fs) res
      (',' :: fieldChars (f :: fields) ++ '\x7d' :: rest) (.inl rfl)
      (follows_delimiter v (.inl rfl) _) (hf (k, v) List.mem_cons_self)
      (hd (k, v) List.mem_cons_self)
    obtain ⟨t', others⟩ := run_fieldChars (f :: fields) .key n t₂ ((k, v.gathered gather) :: before)
      k fs res rest (.inr rfl) nofun (fun g hg => hf g (List.mem_cons_of_mem _ hg))
      (fun g hg => hd g (List.mem_cons_of_mem _ hg))
    refine ⟨t', ?_⟩
    rw [fieldChars_append, key, first, gatheredFields]
    rw [List.reverse_cons, List.append_assoc, List.singleton_append] at others
    exact others

end

/-! ## Values that are too deep -/

mutual

/-- A printed value is refused if more than `maxDepth` containers would be open in it. -/
theorem run_chars_deep : ∀ (v : Json) (m : Mode) (n : List Bracket) (t : List Char)
    (fs : List Frame) (res : Option Json) (rest : List Char), m.AcceptsValue → v.IsFaithful →
    fs.length ≤ maxDepth → maxDepth < fs.length + v.depth →
    run gather ⟨⟨m, n⟩, t, fs, res⟩ (chars v ++ rest) = none
  | .null, _, _, _, _, _, _, _, _, hl, hd | .bool _, _, _, _, _, _, _, _, _, hl, hd
  | .number _, _, _, _, _, _, _, _, _, hl, hd | .string _, _, _, _, _, _, _, _, _, hl, hd => by
    rw [depth] at hd
    omega
  | .array items, m, n, t, fs, res, rest, hm, hf, _, hd => by
    rw [chars, List.cons_append, List.cons_append, run_cons, step_openArray gather n t fs res hm]
    split
    · next room =>
      have deep : ∃ v ∈ items, maxDepth < fs.length + 1 + v.depth := by
        rw [depth] at hd
        obtain ⟨v, hv, deep⟩ := lt_itemDepth.1 (show maxDepth - (fs.length + 1) < itemDepth items by
          omega)
        exact ⟨v, hv, by omega⟩
      rw [Option.bind_some, List.append_assoc, List.singleton_append]
      exact run_itemChars_deep items .firstItem n t [] fs res rest (.inr rfl)
        (fun v hv => hf.part (part_item hv)) room deep
    · rfl
  | .object fields, m, n, t, fs, res, rest, hm, hf, _, hd => by
    rw [chars, List.cons_append, List.cons_append, run_cons, step_openObject gather n t fs res hm]
    split
    · next room =>
      have deep : ∃ f ∈ fields, maxDepth < fs.length + 1 + depth f.2 := by
        rw [depth] at hd
        obtain ⟨f, hv, deep⟩ := lt_fieldDepth.1 (show maxDepth - (fs.length + 1) < fieldDepth fields by
          omega)
        exact ⟨f, hv, by omega⟩
      rw [Option.bind_some, List.append_assoc, List.singleton_append]
      exact run_fieldChars_deep fields .firstKey n t [] "" fs res rest (.inl rfl)
        (fun f hv => hf.part (part_field hv)) room deep
    · rfl

theorem run_itemChars_deep : ∀ (items : List Json) (m : Mode) (n : List Bracket) (t : List Char)
    (before : List Json) (fs : List Frame) (res : Option Json) (rest : List Char),
    m.AcceptsValue → (∀ v ∈ items, v.IsFaithful) → fs.length < maxDepth →
    (∃ v ∈ items, maxDepth < fs.length + 1 + v.depth) →
    run gather ⟨⟨m, .array :: n⟩, t, .array before :: fs, res⟩ (itemChars items ++ ']' :: rest) =
      none
  | [], _, _, _, _, _, _, _, _, _, _, hd => by
    obtain ⟨v, hv, -⟩ := hd
    cases hv
  | v :: items, m, n, t, before, fs, res, rest, hm, hf, hl, hd => by
    by_cases here : maxDepth < fs.length + 1 + v.depth
    · have stopped := fun rest => run_chars_deep v m (.array :: n) t (.array before :: fs) res rest hm
        (hf v List.mem_cons_self) hl here
      cases items with
      | nil => exact stopped _
      | cons w items =>
        rw [itemChars, List.append_assoc]
        exact stopped _
    · cases items with
      | nil =>
        obtain ⟨w, hw, deep⟩ := hd
        rw [List.mem_singleton.1 hw] at deep
        exact absurd deep here
      | cons w items =>
        obtain ⟨t', first⟩ := run_chars gather v m (.array :: n) t (.array before :: fs) res
          (',' :: itemChars (w :: items) ++ ']' :: rest) hm (follows_delimiter v (.inl rfl) _)
          (hf v List.mem_cons_self) (by rw [List.length_cons]; omega)
        rw [itemChars, List.append_assoc, first]
        refine run_itemChars_deep (w :: items) .value n t' (v.gathered gather :: before) fs res rest
          (.inl rfl) (fun u hu => hf u (List.mem_cons_of_mem v hu)) hl ?_
        obtain ⟨u, hu, deep⟩ := hd
        obtain rfl | hu := List.mem_cons.1 hu
        · exact absurd deep here
        · exact ⟨u, hu, deep⟩

theorem run_fieldChars_deep : ∀ (fields : List (String × Json)) (m : Mode) (n : List Bracket)
    (t : List Char) (before : List (String × Json)) (last : String) (fs : List Frame)
    (res : Option Json) (rest : List Char), m = .firstKey ∨ m = .key →
    (∀ f ∈ fields, IsFaithful f.2) → fs.length < maxDepth →
    (∃ f ∈ fields, maxDepth < fs.length + 1 + depth f.2) →
    run gather ⟨⟨m, .object :: n⟩, t, .object before last :: fs, res⟩
      (fieldChars fields ++ '\x7d' :: rest) = none
  | [], _, _, _, _, _, _, _, _, _, _, _, hd => by
    obtain ⟨f, hf, -⟩ := hd
    cases hf
  | (k, v) :: fields, m, n, t, before, last, fs, res, rest, hm, hf, hl, hd => by
    by_cases here : maxDepth < fs.length + 1 + v.depth
    · have stopped := fun t rest => run_chars_deep v .value (.object :: n) t (.object before k :: fs)
        res rest (.inl rfl) (hf (k, v) List.mem_cons_self) hl here
      cases fields with
      | nil =>
        obtain ⟨t₁, key⟩ := run_key gather n t fs res k hm before last (chars v ++ '\x7d' :: rest)
        rw [fieldChars, List.append_assoc, List.cons_append, key]
        exact stopped t₁ _
      | cons f fields =>
        obtain ⟨t₁, key⟩ := run_key gather n t fs res k hm before last
          (chars v ++ (',' :: fieldChars (f :: fields) ++ '\x7d' :: rest))
        rw [fieldChars_append, key]
        exact stopped t₁ _
    · cases fields with
      | nil =>
        obtain ⟨w, hw, deep⟩ := hd
        rw [List.mem_singleton.1 hw] at deep
        exact absurd deep here
      | cons f fields =>
        obtain ⟨t₁, key⟩ := run_key gather n t fs res k hm before last
          (chars v ++ (',' :: fieldChars (f :: fields) ++ '\x7d' :: rest))
        obtain ⟨t₂, first⟩ := run_chars gather v .value (.object :: n) t₁ (.object before k :: fs) res
          (',' :: fieldChars (f :: fields) ++ '\x7d' :: rest) (.inl rfl)
          (follows_delimiter v (.inl rfl) _) (hf (k, v) List.mem_cons_self)
          (by rw [List.length_cons]; omega)
        rw [fieldChars_append, key, first]
        refine run_fieldChars_deep (f :: fields) .key n t₂ ((k, v.gathered gather) :: before) k fs res
          rest (.inr rfl) (fun g hg => hf g (List.mem_cons_of_mem _ hg)) hl ?_
        obtain ⟨g, hg, deep⟩ := hd
        obtain rfl | hg := List.mem_cons.1 hg
        · exact absurd deep here
        · exact ⟨g, hg, deep⟩

end

/-! ## The scan that the reader follows -/

section Followed

variable {r r' : Reader} {c : Char} {gather}

@[simp] theorem setKey_scan (k : String) (r : Reader) : (r.setKey k).scan = r.scan := by
  unfold setKey
  split <;> rfl

@[simp] theorem pop_scan (gather : List (String × Json) → List (String × Json)) (r : Reader) :
    (r.pop gather).scan = r.scan := by
  unfold pop
  split <;> simp

theorem push_scan {f : Frame} (h : r.push f = some r') : r'.scan = r.scan := by
  grind [push]

theorem closeText_scan {isKey : Bool} (h : r.closeText isKey = some r') : r'.scan = r.scan := by
  obtain ⟨cs, -, rfl⟩ := Option.map_eq_some_iff.1 h
  cases isKey <;> simp

theorem closeNumber_scan (h : r.closeNumber = some r') : r'.scan = r.scan := by
  obtain ⟨n, -, rfl⟩ := Option.map_eq_some_iff.1 h
  exact deliver_scan _ _

theorem structural_scan (h : r.structural gather c = some r') : r'.scan = r.scan := by
  unfold structural at h
  split at h <;> grind [push_scan, pop_scan]

/-- With each character the reader goes where the scan goes. -/
theorem step_scan (h : step gather r c = some r') : r.scan.step c = some r'.scan := by
  obtain ⟨next, scanned, moved⟩ := Option.bind_eq_some_iff.1 h
  rw [scanned, Option.some_inj]
  dsimp only at moved
  split at moved
  · cases moved
    rfl
  · cases moved
    rfl
  · exact (closeText_scan moved).symm
  · cases moved
    rfl
  · cases moved
    rfl
  · cases moved
    rfl
  · cases moved
    simp
  · cases moved
    rfl
  · obtain ⟨ended, closed, rest⟩ := Option.bind_eq_some_iff.1 moved
    rw [structural_scan rest, closeNumber_scan closed]
  · exact (structural_scan moved).symm

theorem run_scan {cs : List Char} (h : run gather r cs = some r') : r.scan.run cs = some r'.scan := by
  induction cs generalizing r with
  | nil =>
    cases h
    rfl
  | cons c cs ih =>
    obtain ⟨next, first, rest⟩ := Option.bind_eq_some_iff.1 h
    rw [Scan.run_cons, step_scan first, Option.bind_some, ih rest]

end Followed

end Reader

/-- What can be read is JSON. -/
theorem scans_of_readWith {gather : List (String × Json) → List (String × Json)} {s : String} {v : Json}
    (h : readWith gather s = some v) : scans s.toList = true := by
  obtain ⟨r, ran, finished⟩ := Option.bind_eq_some_iff.1 h
  have scanned : Scan.start.run s.toList = some r.scan := Reader.run_scan ran
  rw [scans, scanned]
  grind [Reader.finish]

/-- A container that is printed is read back, unless its nesting is refused. -/
theorem readWith_render (gather : List (String × Json) → List (String × Json)) {v : Json}
    (hv : ∀ n, v ≠ .number n) (hf : v.IsFaithful) :
    readWith gather v.render = if v.depth ≤ maxDepth then some (v.gathered gather) else none := by
  have follows : Follows v [] := fun n hn => absurd hn (hv n)
  rw [readWith, render, String.toList_ofList]
  split
  · next shallow =>
    obtain ⟨t, read⟩ := Reader.run_chars gather v .value [] [] [] none [] (.inl rfl) follows hf
      (by simpa using shallow)
    rw [List.append_nil] at read
    exact (congrArg (Option.bind · Reader.finish) read).trans rfl
  · next deep =>
    have refused := Reader.run_chars_deep gather v .value [] [] [] none [] (.inl rfl) hf (by decide)
      (by simpa using deep)
    rw [List.append_nil] at refused
    exact congrArg (Option.bind · Reader.finish) refused

end Telemetry.Json
