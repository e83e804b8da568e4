import Telemetry.Dict

/-!
# Sorted dictionaries

Inserting and erasing keep a dictionary sorted, so one that is built from any entries is sorted. A dictionary
that is sorted already is built from its own entries, and inserting what it holds changes nothing. What is
put into it is found under its key, and what is erased is found no more.
-/

namespace Telemetry.Dict

variable {α : Type}

/-- The keys ascend, so each key stands once. -/
def IsSorted (d : List (String × α)) : Prop := d.Pairwise fun a b => a.1 < b.1

theorem mem_insert {k : String} {v : α} {d : Dict α} {e : String × α} (h : e ∈ insert k v d) :
    e = (k, v) ∨ e ∈ d := by
  induction d with
  | nil => simpa [insert] using h
  | cons f d ih =>
    unfold insert at h
    split at h
    · simpa using h
    · split at h
      · grind
      · grind

theorem IsSorted.insert {d : Dict α} (h : IsSorted d) (k : String) (v : α) :
    IsSorted (insert k v d) := by
  induction d with
  | nil => exact List.pairwise_singleton _ _
  | cons f d ih =>
    obtain ⟨k', v'⟩ := f
    obtain ⟨first, rest⟩ := List.pairwise_cons.1 h
    unfold Dict.insert
    split
    · next below =>
      refine List.pairwise_cons.2 ⟨?_, h⟩
      intro e he
      obtain rfl | he := List.mem_cons.1 he
      · exact below
      · exact String.lt_trans below (first e he)
    · next notBelow =>
      split
      · next same =>
        subst same
        exact List.pairwise_cons.2 ⟨first, rest⟩
      · next differs =>
        have above : k' < k :=
          Decidable.not_not.1 fun hn => differs (String.le_antisymm hn notBelow)
        refine List.pairwise_cons.2 ⟨?_, ih rest⟩
        intro e he
        obtain rfl | he := mem_insert he
        · exact above
        · exact first e he

theorem isSorted_ofList (es : List (String × α)) : IsSorted (ofList es) := by
  have grow : ∀ (es : List (String × α)) (d : Dict α), IsSorted d →
      IsSorted (es.foldl (fun d e => Dict.insert e.1 e.2 d) d) := by
    intro es
    induction es with
    | nil => exact fun _ h => h
    | cons e es ih => exact fun d h => ih _ (h.insert e.1 e.2)
  exact grow es [] List.Pairwise.nil

theorem mem_ofList {es : List (String × α)} {e : String × α} (h : e ∈ ofList es) : e ∈ es := by
  have grow : ∀ (es : List (String × α)) (d : Dict α),
      e ∈ es.foldl (fun d e => Dict.insert e.1 e.2 d) d → e ∈ es ∨ e ∈ d := by
    intro es
    induction es with
    | nil => exact fun _ h => .inr h
    | cons f es ih =>
      intro d h
      obtain h | h := ih _ h
      · exact .inl (List.mem_cons_of_mem f h)
      · obtain rfl | h := mem_insert h
        · exact .inl List.mem_cons_self
        · exact .inr h
  simpa using grow es [] h

/-- A key above all others goes to the end. -/
theorem insert_above {k : String} {d : Dict α} (h : ∀ e ∈ d, e.1 < k) (v : α) :
    insert k v d = d ++ [(k, v)] := by
  induction d with
  | nil => rfl
  | cons f d ih =>
    have below := h f List.mem_cons_self
    have differs : k ≠ f.1 := by
      intro he
      exact String.lt_irrefl _ (he ▸ below)
    rw [insert, if_neg (String.lt_asymm below), if_neg differs,
      ih fun e he => h e (List.mem_cons_of_mem f he)]
    rfl

theorem ofList_of_isSorted {d : Dict α} (h : IsSorted d) : ofList d = d := by
  have grow : ∀ (es d : Dict α), IsSorted (d ++ es) →
      es.foldl (fun d e => Dict.insert e.1 e.2 d) d = d ++ es := by
    intro es
    induction es with
    | nil => simp
    | cons e es ih =>
      intro d h
      have below : ∀ f ∈ d, f.1 < e.1 := by
        intro f hf
        exact (List.pairwise_append.1 h).2.2 f hf e List.mem_cons_self
      rw [List.foldl_cons, insert_above below, ih]
      · simp
      · simpa using h
  exact grow d [] h

theorem mem_of_find? {k : String} {v : α} {d : Dict α} (h : find? k d = some v) : (k, v) ∈ d := by
  induction d with
  | nil => cases h
  | cons e d ih =>
    rw [find?] at h
    split at h
    · next same =>
      cases h
      rw [same]
      exact List.mem_cons_self
    · exact List.mem_cons_of_mem e (ih h)

theorem insert_of_find? {d : Dict α} (h : IsSorted d) {k : String} {v : α}
    (hf : find? k d = some v) : insert k v d = d := by
  induction d with
  | nil => cases hf
  | cons f d ih =>
    obtain ⟨k', v'⟩ := f
    obtain ⟨first, rest⟩ := List.pairwise_cons.1 h
    rw [find?] at hf
    split at hf
    · next same =>
      cases hf
      rw [insert, same, if_neg (String.lt_irrefl _), if_pos rfl]
    · next differs =>
      have above : k' < k := first _ (mem_of_find? hf)
      rw [insert, if_neg (String.lt_asymm above), if_neg differs, ih rest hf]

/-! ## Erasing -/

theorem mem_of_mem_erase {k : String} {d : Dict α} {e : String × α} (h : e ∈ erase k d) : e ∈ d := by
  induction d with
  | nil => exact h
  | cons f d ih =>
    unfold erase at h
    split at h
    · exact List.mem_cons_of_mem f h
    · obtain rfl | h := List.mem_cons.1 h
      · exact List.mem_cons_self
      · exact List.mem_cons_of_mem f (ih h)

theorem IsSorted.erase {d : Dict α} (h : IsSorted d) (k : String) : IsSorted (erase k d) := by
  induction d with
  | nil => exact h
  | cons f d ih =>
    obtain ⟨first, rest⟩ := List.pairwise_cons.1 h
    unfold Dict.erase
    split
    · exact rest
    · exact List.pairwise_cons.2 ⟨fun e he => first e (mem_of_mem_erase he), ih rest⟩

theorem find?_erase_of_ne {k k' : String} (h : k' ≠ k) (d : Dict α) : find? k'
    (erase k d) = find? k' d := by
  induction d with
  | nil => rfl
  | cons f d ih =>
    unfold erase
    split
    · next same => simp [find?, h, ← same]
    · simp [find?, ih]

/-- No key stands twice, so an erased one is gone. -/
theorem find?_erase_self {d : Dict α} (h : IsSorted d) (k : String) : find? k (erase k d) = none := by
  induction d with
  | nil => rfl
  | cons f d ih =>
    obtain ⟨first, rest⟩ := List.pairwise_cons.1 h
    unfold erase
    split
    · next same =>
      cases found : find? k d with
      | none => rfl
      | some v =>
        have above : f.1 < k := first _ (mem_of_find? found)
        exact absurd (same ▸ above) (String.lt_irrefl _)
    · next differs => simp [find?, differs, ih rest]

theorem IsSorted.put {d : Dict α} (h : IsSorted d) (k : String) (v : Option α) : IsSorted
    (put k v d) := by
  cases v with
  | none => exact h.erase k
  | some v => exact h.insert k v

theorem find?_put {d : Dict α} (h : IsSorted d) (k k' : String) (v : Option α) :
    find? k' (put k v d) = if k' = k then v else find? k' d := by
  split
  · next same =>
    subst same
    cases v with
    | none => exact find?_erase_self h k'
    | some v => exact find?_insert_self k' v d
  · next differs =>
    cases v with
    | none => exact find?_erase_of_ne differs d
    | some v => exact find?_insert_of_ne differs v d

end Telemetry.Dict
