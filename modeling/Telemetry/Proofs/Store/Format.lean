import Telemetry.Proofs.Dict
import Telemetry.Proofs.Json.Reading
import Telemetry.Store.File

/-!
# The text of a store

A store writes one value a line. The reader goes over such a line as over a field that is printed without
spaces, so the text of sorted values is read as these values, whatever the keys and the strings are.
-/

namespace Telemetry.Store

open Json (Mode Reader IsDelimiter)

/-! ## Values -/

@[simp] theorem Value.ofJson?_json (v : Value) : Value.ofJson? v.json = some v := by
  cases v with
  | bool b => rfl
  | integer n =>
    have least := Int64.le_toInt n
    have greatest := Int64.toInt_lt n
    simp only [json, ofJson?]
    rw [if_pos (by constructor <;> omega)]
    simp
  | string s => rfl

@[simp] theorem Value.depth_json (v : Value) : v.json.depth = 0 := by cases v <;> rfl

@[simp] theorem Value.gathered_json (gather : List (String × Json) → List (String × Json)) (v : Value) :
    v.json.gathered gather = v.json := by cases v <;> rfl

/-- Integers of 64 bits are read as they are written. -/
theorem Value.isFaithful_json (v : Value) : v.json.IsFaithful := by
  intro x hx
  cases v with
  | bool b => cases hx
  | integer n =>
    have least := Int64.le_toInt n
    have greatest := Int64.toInt_lt n
    cases hx
    refine Json.Number.ofChars?_int ?_
    constructor <;> omega
  | string s => cases hx

namespace File

/-- The object that the text of some values is. -/
def fields (values : Dict Value) : List (String × Json) := values.map fun e => (e.1, e.2.json)

theorem mapM_fields (values : Dict Value) :
    (fields values).mapM (fun f => (Value.ofJson? f.2).map fun v => (f.1, v)) = some values := by
  induction values with
  | nil => rfl
  | cons e values ih => simp_all [fields]

/-! ## Lines -/

def lineChars (entry : String × Value) : List Char :=
  ' ' :: ' ' :: Json.stringChars entry.1 ++ ':' :: ' ' :: entry.2.json.chars

@[simp] theorem toList_line (entry : String × Value) : (line entry).toList = lineChars entry := by
  simp [line, lineChars, Json.render, Json.chars]

/-- The lines, with what stands between and behind them. -/
def bodyChars (values : Dict Value) : List Char :=
  [',', '\n'].intercalate (values.map lineChars) ++ ['\n', '\x7d']

theorem toList_render {values : Dict Value} (h : values ≠ []) :
    (render values).toList = '\x7b' :: '\n' :: bodyChars values := by
  simp [render, h, bodyChars, String.toList_intercalate, Function.comp_def]

theorem bodyChars_cons (e f : String × Value) (values : Dict Value) :
    bodyChars (e :: f :: values) = lineChars e ++ ',' :: '\n' :: bodyChars (f :: values) := by
  simp [bodyChars, List.intercalate]

variable (gather : List (String × Json) → List (String × Json)) (t : List Char)

/-- The reader inside the object of a store, and inside nothing else. -/
def inside (m : Mode) (t : List Char) (before : List (String × Json)) (last : String) : Reader :=
  ⟨⟨m, [.object]⟩, t, [.object before last], none⟩

theorem run_line (k : String) (v : Value) {m : Mode} (hm : m = .firstKey ∨ m = .key)
    (before : List (String × Json)) (last : String) {c : Char} (hc : IsDelimiter c) (rest : List Char) :
    ∃ t', Reader.run gather (inside m t before last) (lineChars (k, v) ++ c :: rest) =
      Reader.run gather (inside .done t' ((k, v.json) :: before) k) (c :: rest) := by
  have indent : ∀ cs, Reader.run gather (inside m t before last) (' ' :: ' ' :: cs) =
      Reader.run gather (inside m t before last) cs := by
    intro cs
    rcases hm with rfl | rfl <;> rfl
  obtain ⟨t₁, key⟩ := Reader.run_key gather [] t [] none k hm before last (' ' :: v.json.chars ++ c :: rest)
  have space : Reader.run gather (inside .value t₁ before k) (' ' :: v.json.chars ++ c :: rest) =
      Reader.run gather (inside .value t₁ before k) (v.json.chars ++ c :: rest) := rfl
  obtain ⟨t', value⟩ := Reader.run_chars gather v.json .value [.object] t₁ [.object before k] none
    (c :: rest) (.inl rfl) (Json.follows_delimiter _ hc rest) v.isFaithful_json (by simp [Json.maxDepth])
  refine ⟨t', ?_⟩
  rw [Value.gathered_json] at value
  simp only [lineChars, List.cons_append, List.append_assoc]
  exact (indent _).trans (key.trans (space.trans value))

/-- The lines are read into the object, and the brace behind them closes it. -/
theorem run_bodyChars (values : Dict Value) (e : String × Value) {m : Mode}
    (hm : m = .firstKey ∨ m = .key) (before : List (String × Json)) (last : String) :
    ∃ t', Reader.run gather (inside m t before last) (bodyChars (e :: values)) =
      some ⟨⟨.done, []⟩, t', [], some (.object (gather (before.reverse ++ fields (e :: values))))⟩ := by
  induction values generalizing e m before last t with
  | nil =>
    obtain ⟨k, v⟩ := e
    obtain ⟨t', read⟩ := run_line gather t k v hm before last (.inr (.inr (.inr rfl))) ['\x7d']
    have body : bodyChars [(k, v)] = lineChars (k, v) ++ '\n' :: ['\x7d'] := by
      simp [bodyChars, List.intercalate]
    refine ⟨t', ?_⟩
    rw [body, read, fields, List.map_singleton, ← List.reverse_cons]
    rfl
  | cons f values ih =>
    obtain ⟨k, v⟩ := e
    obtain ⟨t₁, first⟩ := run_line gather t k v hm before last (.inl rfl) ('\n' :: bodyChars (f :: values))
    have comma : ∀ cs, Reader.run gather (inside .done t₁ ((k, v.json) :: before) k) (',' :: '\n' :: cs) =
        Reader.run gather (inside .key t₁ ((k, v.json) :: before) k) cs := fun _ => rfl
    obtain ⟨t', others⟩ := ih t₁ f (.inr rfl) ((k, v.json) :: before) k
    refine ⟨t', ?_⟩
    rw [bodyChars_cons, first, comma, others]
    simp [fields]

theorem readWith_render (values : Dict Value) :
    Json.readWith gather (render values) = some (.object (gather (fields values))) := by
  cases values with
  | nil => rfl
  | cons e values =>
    obtain ⟨t', read⟩ := run_bodyChars gather [] values e (.inl rfl) [] ""
    have opened : ∀ cs, Reader.run gather {} ('\x7b' :: '\n' :: cs) =
        Reader.run gather (inside .firstKey [] [] "") cs := fun _ => rfl
    rw [Json.readWith, toList_render (List.cons_ne_nil _ _), opened, read]
    rfl

/-- What is written is read. -/
theorem parse?_render {values : Dict Value} (h : Dict.IsSorted values) :
    parse? (render values) = some values := by
  simp [parse?, readWith_render, mapM_fields, Dict.ofList_of_isSorted h]

theorem isSorted_of_parse? {text : String} {values : Dict Value} (h : parse? text = some values) :
    Dict.IsSorted values := by
  unfold parse? at h
  split at h
  · obtain ⟨entries, -, rfl⟩ := Option.map_eq_some_iff.1 h
    exact Dict.isSorted_ofList entries
  · cases h

theorem ofContent_utf8 {text : String} {values : Dict Value} (h : parse? text = some values) :
    ofContent (Text.utf8 text) = .ok values := by
  have filled : (Text.utf8 text).isEmpty = false := by
    rw [List.isEmpty_eq_false_iff]
    intro none
    rw [show text = "" by simpa using congrArg List.length none] at h
    cases h
  simp [ofContent, filled, Text.ofUtf8?_utf8, h]

/-- The content of a store file is empty or the text of some values. -/
theorem ofContent_cases {content : List UInt8} {values : Dict Value} (h : ofContent content = .ok values) :
    content = [] ∧ values = [] ∨ ∃ text, content = Text.utf8 text ∧ parse? text = some values := by
  unfold ofContent at h
  split at h
  · next none =>
    cases h
    exact .inl ⟨List.isEmpty_iff.1 none, rfl⟩
  · split at h
    · next found =>
      cases h
      obtain ⟨text, valid, parsed⟩ := Option.bind_eq_some_iff.1 found
      exact .inr ⟨text, (Text.utf8_of_ofUtf8? valid).symm, parsed⟩
    · cases h

end File
end Telemetry.Store
