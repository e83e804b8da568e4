import Mathlib.Data.List.DropRight
import Mathlib.Data.List.TakeWhile
import Telemetry.Text.Blank

/-!
# Trimming

What trimming leaves has no blank at its ends, and a text without blanks at its ends is left as it is.
-/

namespace Telemetry.Text

/-- There is no blank at either end. -/
structure IsTrimmed (text : List Char) : Prop where
  first : ∀ c ∈ text.head?, isBlank c = false
  last : ∀ c ∈ text.getLast?, isBlank c = false

instance (text : List Char) : Decidable (IsTrimmed text) :=
  let free (o : Option Char) : Decidable (∀ c ∈ o, isBlank c = false) := Option.decidableForallMem o
  @decidable_of_iff _ _ ⟨fun h => ⟨h.1, h.2⟩, fun h => ⟨h.first, h.last⟩⟩
    (@instDecidableAnd _ _ (free text.head?) (free text.getLast?))

variable {text : List Char} {c : Char}

theorem trim_eq_rdropWhile (text : List Char) : trim text = (trimStart text).rdropWhile isBlank := rfl

/-- The end that is cut off. -/
theorem exists_trimStart_eq (text : List Char) : ∃ rest, trimStart text = trim text ++ rest := by
  obtain ⟨rest, split⟩ := List.rdropWhile_prefix isBlank (trimStart text)
  exact ⟨rest, split.symm⟩

theorem mem_of_mem_trim (h : c ∈ trim text) : c ∈ text := by
  obtain ⟨rest, split⟩ := exists_trimStart_eq text
  have kept : c ∈ trimStart text := split ▸ List.mem_append_left rest h
  exact (List.dropWhile_suffix isBlank).subset kept

theorem trim_eq_self (h : IsTrimmed text) : trim text = text := by
  have start : trimStart text = text := by
    refine List.dropWhile_eq_self_iff.2 fun given => ?_
    simp [h.first text[0] (List.head?_eq_getElem? ▸ List.getElem?_eq_getElem given)]
  rw [trim_eq_rdropWhile, start]
  refine List.rdropWhile_eq_self_iff.2 fun given => ?_
  simp [h.last _ (List.getLast?_eq_getLast_of_ne_nil given)]

theorem IsTrimmed.append {front back : List Char} (h : IsTrimmed front) (h' : IsTrimmed back) :
    IsTrimmed (front ++ back) := by
  constructor
  · intro c hc
    cases front with
    | nil => exact h'.first c hc
    | cons d front => exact h.first c hc
  · intro c hc
    rw [List.getLast?_append] at hc
    cases shape : back.getLast? with
    | none => exact h.last c (by simpa [shape] using hc)
    | some d => exact h'.last c (by simpa [shape] using hc)

theorem rdropWhile_append_blanks {gap : List Char} (text : List Char) (blank : ∀ c ∈ gap, isBlank c = true) :
    (text ++ gap).rdropWhile isBlank = text.rdropWhile isBlank := by
  rw [List.rdropWhile, List.rdropWhile, List.reverse_append,
    List.dropWhile_append_of_pos fun c hc => blank c (List.mem_reverse.1 hc)]

/-- Blanks behind a trimmed text are cut off. -/
theorem trim_append_blanks {gap : List Char} (h : IsTrimmed text) (blank : ∀ c ∈ gap, isBlank c = true) :
    trim (text ++ gap) = text := by
  have kept := trim_eq_self h
  cases text with
  | nil =>
    have start : trimStart gap = [] := List.dropWhile_eq_nil_iff.2 blank
    rw [List.nil_append, trim, start]
    rfl
  | cons c text =>
    have start (rest : List Char) : trimStart (c :: text ++ rest) = c :: text ++ rest :=
      List.dropWhile_cons_of_neg (by simp [h.first c rfl])
    rw [trim_eq_rdropWhile, start gap, rdropWhile_append_blanks _ blank]
    rwa [trim_eq_rdropWhile, ← List.append_nil (c :: text), start [], List.append_nil] at kept

theorem trimStart_eq_nil_iff : trimStart text = [] ↔ ∀ c ∈ text, isBlank c = true := List.dropWhile_eq_nil_iff

/-- What is left begins with a character that is not blank. -/
theorem head_trimStart (text : List Char) (h : c ∈ (trimStart text).head?) : isBlank c = false := by
  have first := List.head?_dropWhile_not isBlank text
  rw [show (text.dropWhile isBlank).head? = some c from h] at first
  simpa using first

theorem isTrimmed_trim (text : List Char) : IsTrimmed (trim text) := by
  constructor
  · intro c hc
    obtain ⟨rest, split⟩ := exists_trimStart_eq text
    refine head_trimStart text ?_
    rw [split]
    exact List.mem_head?_append_of_mem_head? hc
  · intro c hc
    obtain ⟨given, rfl⟩ := List.mem_getLast?_eq_getLast hc
    exact Bool.eq_false_iff.2 (List.rdropWhile_last_not isBlank (trimStart text) given)

/-- Trimming leaves nothing of blanks only. -/
theorem trim_ne_nil_iff : trim text ≠ [] ↔ ∃ c ∈ text, isBlank c = false := by
  have blanks : trim text = [] ↔ trimStart text = [] := by
    constructor
    · intro h
      have all := List.rdropWhile_eq_nil_iff.1 h
      cases shape : trimStart text with
      | nil => rfl
      | cons d rest =>
        have first : isBlank d = false := head_trimStart text (by rw [shape]; rfl)
        simp [all d (by rw [shape]; exact List.mem_cons_self)] at first
    · intro h
      rw [trim, h]
      rfl
  rw [Ne, blanks, trimStart_eq_nil_iff]
  simp

end Telemetry.Text
