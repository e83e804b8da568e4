import Mathlib.Data.List.Infix
import Telemetry.Text.Cut

/-!
# Looking for a pattern

What `find?` finds is an occurrence, and a pattern that cannot overlap with itself is found where it was put, unless it
occurs in what stands in front. Where a pattern can lie in a text that is put together is limited by the characters that
it has and has not.
-/

namespace Telemetry.Text

variable {pattern text x y : List Char} {c : Char}

/-! ## Places in characters -/

theorem after?_append (pattern text : List Char) : after? pattern (pattern ++ text) = some text := by
  induction pattern with
  | nil => rfl
  | cons p pattern ih => simp [after?, ih]

theorem after?_eq_none_iff : after? pattern text = none ↔ ¬ pattern <+: text := by
  fun_induction after? pattern text <;> simp_all [List.cons_prefix_cons]

theorem find?_at_start (pattern y : List Char) : find? pattern (pattern ++ y) = some 0 := by
  cases pattern with
  | nil => cases y <;> rfl
  | cons p pattern => simp [find?]

theorem find?_eq_none_iff : find? pattern text = none ↔ ¬ pattern <:+: text := by
  induction text with
  | nil => simp [find?]
  | cons c text ih =>
    rw [List.infix_cons_iff, ← List.isPrefixOf_iff_prefix, find?]
    split
    · simp [*]
    · simp [*]

/-- The text is cut at the first occurrence. -/
theorem exists_of_find? {i : Nat} (h : find? pattern text = some i) :
    ∃ x y, text = x ++ pattern ++ y ∧ x.length = i := by
  induction text generalizing i with
  | nil =>
    simp only [find?, List.isEmpty_iff] at h
    split at h
    · next empty =>
      cases h
      exact ⟨[], [], by simp [empty], rfl⟩
    · cases h
  | cons c text ih =>
    unfold find? at h
    split at h
    · next front =>
      cases h
      obtain ⟨y, split⟩ := List.isPrefixOf_iff_prefix.1 front
      exact ⟨[], y, by simp [split], rfl⟩
    · obtain ⟨j, found, rfl⟩ := Option.map_eq_some_iff.1 h
      obtain ⟨x, y, split, length⟩ := ih found
      exact ⟨c :: x, y, by simp [split], by simp [length]⟩

/-! ## Where a pattern can lie -/

/-- What begins with a character begins behind all that is free of it. -/
theorem infix_of_append (free : c ∉ x) (inside : c :: pattern <:+: x ++ y) : c :: pattern <:+: y := by
  induction x with
  | nil => exact inside
  | cons d x ih =>
    simp only [List.mem_cons, not_or] at free
    obtain front | inside := List.infix_cons_iff.1 inside
    · exact absurd (List.cons_prefix_cons.1 front).1 free.1
    · exact ih free.2 inside

/-- What is free of a character lies on one side of it. -/
theorem infix_or_infix (other : ∀ d ∈ y.head?, d ∉ pattern) (inside : pattern <:+: x ++ y) :
    pattern <:+: x ∨ pattern <:+: y := by
  obtain left | right | ⟨front, back, rfl, left, right⟩ := List.infix_append_iff.1 inside
  · exact .inl left
  · exact .inr right
  · cases back with
    | nil => exact .inl (by simpa using left.isInfix)
    | cons d back =>
      obtain ⟨rest, rfl⟩ := right
      exact absurd (other d rfl) (by simp)

/-- A pattern whose first character does not return in it does not overlap with itself. -/
theorem not_prefix_of_once (once : c ∉ pattern) (before : ¬ c :: pattern <:+: x) (given : x ≠ []) (y : List Char) :
    ¬ c :: pattern <+: x ++ c :: pattern ++ y := by
  intro front
  rw [List.append_assoc] at front
  obtain inside | ⟨rest, split⟩ := List.prefix_or_prefix_of_prefix front (List.prefix_append x _)
  · exact before inside.isInfix
  · have second : rest <+: c :: pattern ++ y := by
      rw [← List.prefix_append_right_inj x, split]
      exact front
    cases rest with
    | nil => exact before (by rw [← split, List.append_nil])
    | cons d rest =>
      obtain rfl := (List.cons_prefix_cons.1 second).1
      obtain ⟨e, x, rfl⟩ := List.exists_cons_of_ne_nil given
      obtain ⟨-, rfl⟩ := List.cons.inj split
      exact once (by simp)

theorem find?_append (once : c ∉ pattern) (before : ¬ c :: pattern <:+: x) (y : List Char) :
    find? (c :: pattern) (x ++ c :: pattern ++ y) = some x.length := by
  induction x with
  | nil => exact find?_at_start _ y
  | cons d x ih =>
    have here := not_prefix_of_once once before (List.cons_ne_nil d x) y
    have later : ¬ c :: pattern <:+: x := fun inside => before (inside.trans (List.suffix_cons d x).isInfix)
    have whole : d :: x ++ c :: pattern ++ y = d :: (x ++ c :: pattern ++ y) := rfl
    rw [whole] at here ⊢
    rw [find?, if_neg (mt List.isPrefixOf_iff_prefix.1 here), ih later]
    rfl

end Telemetry.Text
