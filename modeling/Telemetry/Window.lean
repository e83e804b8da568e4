/-!
# Windows

A window is a sequence that grows at its end and shrinks at its front. It lies in an array, of which the
cells in front have been given up; they are removed when they are more than half of it, so that
either change takes constant time on average.

`toList` is what a window holds. `toList_push` and `toList_drop` say what the changes do to it.
-/

namespace Telemetry

structure Window (α : Type) where
  cells : Array α := #[]
  /-- How many cells have been given up. -/
  first : Nat := 0
  first_le : first ≤ cells.size := by exact Nat.zero_le _
  deriving DecidableEq, Repr

namespace Window

variable {α : Type}

def toList (w : Window α) : List α := w.cells.toList.drop w.first

def size (w : Window α) : Nat := w.cells.size - w.first

def isEmpty (w : Window α) : Bool := w.size == 0

def get? (w : Window α) (i : Nat) : Option α := w.cells[w.first + i]?

def singleton (a : α) : Window α := { cells := #[a] }

def push (a : α) (w : Window α) : Window α :=
  { cells := w.cells.push a
    first := w.first
    first_le := by have := w.first_le; simp; omega }

/-- Gives up `n` cells. -/
def drop (n : Nat) (w : Window α) : Window α :=
  let first := min (w.first + n) w.cells.size
  if w.cells.size < 2 * first then { cells := w.cells.extract first w.cells.size }
  else { cells := w.cells, first, first_le := Nat.min_le_right _ _ }

theorem length_toList (w : Window α) : w.toList.length = w.size := by
  simp [toList, size]

theorem isEmpty_toList (w : Window α) : w.toList.isEmpty = w.isEmpty := by
  rw [isEmpty, ← length_toList, Bool.eq_iff_iff]
  simp

@[simp] theorem toList_empty : ({} : Window α).toList = [] := rfl

@[simp] theorem toList_singleton (a : α) : (singleton a).toList = [a] := rfl

@[simp] theorem toList_push (a : α) (w : Window α) : (w.push a).toList = w.toList ++ [a] := by
  have := w.first_le
  simp [toList, push, List.drop_append_of_le_length, this]

@[simp] theorem toList_drop (n : Nat) (w : Window α) : (w.drop n).toList = w.toList.drop n := by
  simp only [toList, drop]
  split
  · simp [List.take_of_length_le]
  · simp

theorem get?_eq (w : Window α) (i : Nat) : w.get? i = w.toList[i]? := by
  simp [get?, toList]

end Window
end Telemetry
