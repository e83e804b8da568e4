import Telemetry.Proofs.Json.Numeral
import Telemetry.Proofs.Text.Blank
import Telemetry.Proofs.Text.Utf8

/-!
# The characters of printed values

A printed value has no control character, so it fits on one line, and a printed object is not changed by
trimming.
-/

namespace Telemetry

namespace Json

/-- Is the character no control character? -/
def IsPrinted (c : Char) : Prop := 0x20 ≤ c.toNat

instance (c : Char) : Decidable (IsPrinted c) := inferInstanceAs (Decidable (_ ≤ _))

theorem isPrinted_of_isDigit {c : Char} (h : c.isDigit = true) : IsPrinted c := by
  have digit := NumberPart.mem_digits h
  have all : ∀ d ∈ ['0', '1', '2', '3', '4', '5', '6', '7', '8', '9'], IsPrinted d := by
    simp [IsPrinted]
  exact all c digit

theorem isPrinted_of_next? {part next : NumberPart} {c : Char} (h : part.next? c = some next) :
    IsPrinted c := by
  by_cases digit : c.isDigit = true
  · exact isPrinted_of_isDigit digit
  · have other : c ∈ ['0', '.', 'e', 'E', '+', '-'] := by
      simp only [List.mem_cons, List.not_mem_nil, or_false]
      cases part <;> simp [NumberPart.next?, digit] at h <;> grind
    have all : ∀ d ∈ ['0', '.', 'e', 'E', '+', '-'], IsPrinted d := by simp [IsPrinted]
    exact all c other

theorem isPrinted_of_run {part part' : NumberPart} {cs : List Char} (h : part.run cs = some part') :
    ∀ c ∈ cs, IsPrinted c := by
  induction cs generalizing part with
  | nil => nofun
  | cons c cs ih =>
    obtain ⟨next, hc, hcs⟩ := Option.bind_eq_some_iff.1 h
    exact List.forall_mem_cons.2 ⟨isPrinted_of_next? hc, ih hcs⟩

theorem isPrinted_number (n : Number) : ∀ c ∈ n.chars, IsPrinted c := by
  obtain ⟨part, ran, -⟩ | ⟨ds, shape, part, ran, -⟩ := n.isNumeral
  · exact isPrinted_of_run ran
  · rw [shape]
    exact List.forall_mem_cons.2 ⟨by decide, isPrinted_of_run ran⟩

theorem isPrinted_encodeChar (c : Char) : ∀ d ∈ Quoted.encodeChar c, IsPrinted d := by
  unfold Quoted.encodeChar
  split
  case h_8 =>
    split
    · next h =>
      have hex : ∀ k < 16, IsPrinted (Quoted.hexDigit k) := by decide
      have high := hex (c.toNat / 16) (by omega)
      have low := hex (c.toNat % 16) (by omega)
      have plain : ∀ d ∈ ['\\', 'u', '0', '0'], IsPrinted d := by simp [IsPrinted]
      intro d hd
      simp only [Quoted.unicodeEscape, List.mem_cons, List.not_mem_nil, or_false] at hd
      grind
    · next h =>
      intro d hd
      rw [List.mem_singleton.1 hd]
      exact Nat.le_of_not_lt h
  all_goals simp [IsPrinted]

theorem isPrinted_stringChars (s : String) : ∀ c ∈ stringChars s, IsPrinted c := by
  intro c hc
  simp only [stringChars, Quoted.encode, List.cons_append, List.mem_cons, List.mem_append,
    List.mem_flatMap, List.not_mem_nil, or_false] at hc
  obtain rfl | ⟨d, -, hd⟩ | rfl := hc
  · decide
  · exact isPrinted_encodeChar d c hd
  · decide

mutual

theorem isPrinted_chars : ∀ v : Json, ∀ c ∈ chars v, IsPrinted c
  | .null => by simp [chars, IsPrinted]
  | .bool b => by cases b <;> simp [chars, IsPrinted, toString]
  | .number n => isPrinted_number n
  | .string s => isPrinted_stringChars s
  | .array items => by
    have inner := isPrinted_itemChars items
    intro c hc
    simp only [chars, List.cons_append, List.mem_cons, List.mem_append, List.not_mem_nil,
      or_false] at hc
    obtain rfl | hc | rfl := hc
    · decide
    · exact inner c hc
    · decide
  | .object fields => by
    have inner := isPrinted_fieldChars fields
    intro c hc
    simp only [chars, List.cons_append, List.mem_cons, List.mem_append, List.not_mem_nil,
      or_false] at hc
    obtain rfl | hc | rfl := hc
    · decide
    · exact inner c hc
    · decide

theorem isPrinted_itemChars : ∀ items : List Json, ∀ c ∈ itemChars items, IsPrinted c
  | [] => nofun
  | [v] => isPrinted_chars v
  | v :: w :: items => by
    have first := isPrinted_chars v
    have others := isPrinted_itemChars (w :: items)
    intro c hc
    rw [itemChars, List.mem_append, List.mem_cons] at hc
    obtain hc | rfl | hc := hc
    · exact first c hc
    · decide
    · exact others c hc

theorem isPrinted_fieldChars : ∀ fields : List (String × Json),
    ∀ c ∈ fieldChars fields, IsPrinted c
  | [] => nofun
  | [(k, v)] => by
    have value := isPrinted_chars v
    intro c hc
    rw [fieldChars, List.mem_append, List.mem_cons] at hc
    obtain hc | rfl | hc := hc
    · exact isPrinted_stringChars k c hc
    · decide
    · exact value c hc
  | (k, v) :: f :: fields => by
    have value := isPrinted_chars v
    have others := isPrinted_fieldChars (f :: fields)
    intro c hc
    rw [fieldChars, List.append_assoc, List.mem_append, List.cons_append, List.mem_cons,
      List.mem_append, List.mem_cons] at hc
    obtain hc | rfl | hc | rfl | hc := hc
    · exact isPrinted_stringChars k c hc
    · decide
    · exact value c hc
    · decide
    · exact others c hc

end

/-- The bytes of a printed value are not control characters. -/
theorem isPrinted_render (v : Json) : ∀ b ∈ Text.utf8 v.render, 0x20 ≤ b.toNat := by
  intro b hb
  rw [render, Text.utf8_ofList, List.mem_flatMap] at hb
  obtain ⟨c, hc, hb⟩ := hb
  have printed : 0x20 ≤ c.toNat := isPrinted_chars v c hc
  by_cases ascii : c.toNat < 128
  · rw [Text.encodeChar_ascii ascii, List.mem_singleton] at hb
    rw [hb, UInt8.toNat_ofNat']
    omega
  · have := Text.encodeChar_wide (by omega) b hb
    omega

theorem trim_render_object (fields : List (String × Json)) :
    Text.trim (render (.object fields)).toList = (render (.object fields)).toList := by
  rw [render, String.toList_ofList, chars]
  refine Text.trim_eq_self ⟨?_, ?_⟩
  · rintro c ⟨⟩
    decide
  · simp only [List.getLast?_append, List.getLast?_singleton, Option.some_or]
    rintro c ⟨⟩
    decide

end Json
end Telemetry
