/-!
# Cutting text

Where a character or a pattern first occurs, and the text on either side of it.
-/

namespace Telemetry.Text

/-- The text before and after the first `c`. -/
def splitFirst (c : Char) : List Char → Option (List Char × List Char)
  | [] => none
  | x :: xs => if x = c then some ([], xs) else (splitFirst c xs).map fun p => (x :: p.1, p.2)

/-- The pieces between all `c`, empty ones included. -/
def splitAll (c : Char) : List Char → List (List Char)
  | [] => [[]]
  | x :: xs =>
    if x = c then [] :: splitAll c xs
    else
      match splitAll c xs with
      | [] => [[x]]
      | piece :: rest => (x :: piece) :: rest

/-- What follows `pattern` at the start of the text. -/
def after? : (pattern : List Char) → List Char → Option (List Char)
  | [], cs => some cs
  | _ :: _, [] => none
  | p :: ps, c :: cs => if p = c then after? ps cs else none

/-- The position, in characters, of the first occurrence of `pattern`. -/
def find? (pattern : List Char) : List Char → Option Nat
  | [] => if pattern.isEmpty then some 0 else none
  | c :: cs =>
    if pattern.isPrefixOf (c :: cs) then some 0 else (find? pattern cs).map (· + 1)

theorem eq_append_of_splitFirst {c : Char} {cs a b : List Char}
    (h : splitFirst c cs = some (a, b)) : cs = a ++ c :: b ∧ c ∉ a := by
  induction cs generalizing a b with
  | nil => simp [splitFirst] at h
  | cons x xs ih =>
    unfold splitFirst at h
    split at h
    · next hx => simp at h; obtain ⟨rfl, rfl⟩ := h; simp [hx]
    · next hx =>
      obtain ⟨p, hp, he⟩ := Option.map_eq_some_iff.1 h
      simp at he
      obtain ⟨rfl, rfl⟩ := he
      obtain ⟨h1, h2⟩ := ih hp
      exact ⟨by rw [h1]; rfl, by simp [h2, Ne.symm hx]⟩

theorem splitFirst_append {c : Char} {a : List Char} (h : c ∉ a) (b : List Char) :
    splitFirst c (a ++ c :: b) = some (a, b) := by
  induction a with
  | nil => simp [splitFirst]
  | cons x xs ih =>
    simp at h
    simp [splitFirst, ih h.2, Ne.symm h.1]

end Telemetry.Text
