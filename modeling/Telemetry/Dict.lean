/-!
# Dictionaries

A dictionary is a list of entries sorted by key, in the order of the code points of the keys. The
operations here keep it sorted, so that two dictionaries with the same entries are equal.
-/

namespace Telemetry

/-- Entries sorted by key, each key once. -/
abbrev Dict (α : Type) := List (String × α)

namespace Dict

variable {α : Type}

def find? (k : String) : Dict α → Option α
  | [] => none
  | (k', v) :: d => if k = k' then some v else find? k d

/-- Sets `k` to `v`, replacing what was there. -/
def insert (k : String) (v : α) : Dict α → Dict α
  | [] => [(k, v)]
  | (k', v') :: d =>
    if k < k' then (k, v) :: (k', v') :: d
    else if k = k' then (k, v) :: d
    else (k', v') :: insert k v d

def erase (k : String) : Dict α → Dict α
  | [] => []
  | (k', v) :: d => if k = k' then d else (k', v) :: erase k d

/-- Inserts the entries in order, so a later entry wins over an earlier one. -/
def ofList (entries : List (String × α)) : Dict α :=
  entries.foldl (fun d e => insert e.1 e.2 d) []

/-- Sets or removes `k`. -/
def put (k : String) (v : Option α) (d : Dict α) : Dict α :=
  match v with
  | some v => insert k v d
  | none => erase k d

theorem find?_insert_self (k : String) (v : α) (d : Dict α) : find? k (insert k v d) = some v := by
  induction d with
  | nil => simp [insert, find?]
  | cons e d ih =>
    obtain ⟨k', v'⟩ := e
    unfold insert
    split
    · simp [find?]
    · split
      · simp [find?]
      · next h => simp [find?, h, ih]

theorem find?_insert_of_ne {k k' : String} (h : k' ≠ k) (v : α) (d : Dict α) :
    find? k' (insert k v d) = find? k' d := by
  induction d with
  | nil => simp [insert, find?, h]
  | cons e d ih =>
    obtain ⟨k'', v''⟩ := e
    unfold insert
    split
    · simp [find?, h]
    · split
      · next he => subst he; simp [find?, h]
      · simp [find?, ih]

end Dict
end Telemetry
