import Telemetry.Proofs.FileTree.Path

/-!
# Replacing a file

A file is replaced by writing another one beside it and moving that into its place. Until it is moved, the file
reads as before, also where the writing breaks off. Then it reads as what was written.

Files come and go, but no directory ends while files are written and moved, so every path leads where it led.
-/

namespace Telemetry.FileTree

variable {t t' : FileTree} {l l' : Location} {p q : String} {content : List UInt8}

/-! ## Entries -/

theorem find?_filter_ne (files : List (Location × List UInt8)) (l l' : Location) :
    (files.filter fun f => f.1 != l).find? (fun f => f.1 == l') =
      if l' = l then none else files.find? fun f => f.1 == l' := by
  rw [List.find?_filter]
  split
  · next same => simp [same]
  · next differs =>
    congr 1
    funext f
    by_cases h : f.1 = l' <;> simp [h, differs]

theorem entry?_put (t : FileTree) (l l' : Location) (content : List UInt8) :
    FileTree.entry? (t.put l content) l' = if l' = l then some (.file content) else t.entry? l' := by
  by_cases h : l' = l
  · simp only [put, entry?, List.find?_append, find?_filter_ne, if_pos h]
    simp [h]
  · simp only [put, entry?, List.find?_append, find?_filter_ne, if_neg h]
    simp [Ne.symm h]

/-- Where there is a directory there is no file to erase. -/
theorem entry?_erase_directory (l : Location) (h : t.entry? l' = some .directory) :
    FileTree.entry? (t.erase l) l' = some .directory := by
  simp only [erase, entry?, find?_filter_ne] at h ⊢
  grind

/-! ## Directories -/

/-- Each directory of the one tree is one of the other, and relative paths start at the same one. -/
structure KeepsDirectories (t t' : FileTree) : Prop where
  start : t'.workingDirectory = t.workingDirectory
  node : ∀ l, t.entry? l = some .directory → t'.entry? l = some .directory

theorem KeepsDirectories.refl (t : FileTree) : KeepsDirectories t t := ⟨rfl, fun _ h => h⟩

theorem keepsDirectories_put (free : t.entry? l ≠ some .directory) (content : List UInt8) :
    KeepsDirectories t (t.put l content) := by
  refine ⟨rfl, fun l' h => ?_⟩
  rw [entry?_put]
  grind

/-- A file that is moved may replace another, but no directory. -/
theorem keepsDirectories_move (l : Location) (free : t.entry? l' ≠ some .directory) (content : List UInt8) :
    KeepsDirectories t ((t.erase l).put l' content) := by
  refine ⟨rfl, fun l'' h => ?_⟩
  rw [entry?_put]
  split
  · next same => exact absurd (same ▸ h) free
  · exact entry?_erase_directory l h

/-! ## The way to a file -/

theorem KeepsDirectories.walk (h : KeepsDirectories t t') {names : List String} {here : Location}
    (walked : t.walk here names = .ok l) : t'.walk here names = .ok l := by
  induction names generalizing here with
  | nil => exact walked
  | cons name rest ih =>
    simp only [FileTree.walk] at walked ⊢
    split at walked
    · cases walked
    · next short =>
      rw [if_neg short]
      split at walked
      · next last => rw [if_pos last]; exact walked
      · next more =>
        rw [if_neg more]
        split at walked
        · next found =>
          rw [h.node _ found]
          exact ih walked
        · cases walked
        · cases walked

theorem KeepsDirectories.locate (h : KeepsDirectories t t') (located : t.locate p = .ok l) :
    t'.locate p = .ok l := by
  simp only [FileTree.locate, h.start] at located ⊢
  split at located
  · cases located
  · next filled =>
    rw [if_neg filled]
    split at located
    · cases located
    · next sound =>
      rw [if_neg sound]
      exact h.walk located

/-- Where one way ends, another that differs in its last name ends beside it. -/
theorem exists_of_walk {names : List String} {here : Location} {m : String} (hm : m ≠ "..")
    (walked : t.walk here (names ++ [m]) = .ok l) :
    ∃ above, l = above ++ [m] ∧ ∀ t', KeepsDirectories t t' → ∀ n, n ≠ ".." →
      t'.walk here (names ++ [n]) =
        if maxName < n.utf8ByteSize then .error .refused else .ok (above ++ [n]) := by
  induction names generalizing here with
  | nil =>
    refine ⟨here, ?_, fun t' _ n hn => ?_⟩
    · simp only [List.nil_append, FileTree.walk, hm, if_false, List.isEmpty_nil, if_true] at walked
      split at walked
      · cases walked
      · cases walked
        rfl
    · simp [FileTree.walk, hn]
  | cons name names ih =>
    have more : ∀ n : String, (names ++ [n]).isEmpty = false := by simp
    simp only [List.cons_append, FileTree.walk, more] at walked ⊢
    split at walked
    · cases walked
    · next short =>
      split at walked
      · next nothing => cases nothing
      · split at walked
        · next found =>
          obtain ⟨above, shape, beside⟩ := ih walked
          refine ⟨above, shape, fun t' kept n hn => ?_⟩
          rw [if_neg short, kept.node _ found]
          exact beside t' kept n hn
        · cases walked
        · cases walked

/-- Where a path leads does not change while its sibling can be located, and it does not lead to the sibling. -/
theorem Siblings.locate (h : Siblings p q) (located : t.locate q = .ok l) :
    (∀ t', KeepsDirectories t t' → t'.locate p = t.locate p) ∧ t.locate p ≠ .ok l := by
  obtain ⟨absolute, names, n, m, hp, hq, differ, hn, hm⟩ := h
  simp only [FileTree.locate, hp, hq, absolute] at located ⊢
  split at located
  · cases located
  · split at located
    · cases located
    · obtain ⟨above, rfl, beside⟩ := exists_of_walk hm located
      refine ⟨fun t' kept => ?_, ?_⟩
      · rw [kept.start, beside t' kept n hn, beside t (.refl t) n hn]
      · rw [beside t (.refl t) n hn]
        have elsewhere : above ++ [n] ≠ above ++ [m] := by simpa using differ
        grind

/-! ## Reading and writing -/

theorem locateFile_eq_ok_iff :
    t.locateFile p = .ok l ↔
      t.locate p = .ok l ∧ namesDirectory p = false ∧ t.entry? l ≠ some .directory := by
  unfold locateFile
  cases located : t.locate p with
  | error e => simp [bind, Except.bind]
  | ok l' =>
    simp only [bind, Except.bind]
    split <;> grind

/-- A file can be written at `q` without a change to what is read at `p`. -/
def Apart (p q : String) : Prop := Siblings p q ∨ namesDirectory q = true

theorem Apart.read_put (h : Apart p q) (located : t.locateFile q = .ok l) (content : List UInt8) :
    (t.put l content).read p = t.read p := by
  obtain ⟨here, isFile, free⟩ := locateFile_eq_ok_iff.1 located
  rcases h with siblings | directory
  · obtain ⟨still, elsewhere⟩ := siblings.locate here
    have moved := still _ (keepsDirectories_put free content)
    unfold read
    rw [moved]
    cases there : t.locate p with
    | error e => rfl
    | ok l' =>
      have differs : l' ≠ l := by grind
      simp only [bind, Except.bind, entry?_put, differs, if_false]
  · grind

theorem exists_of_write (h : t.write q content = .ok t') :
    ∃ l, t.locateFile q = .ok l ∧ t' = t.put l content := by
  unfold write at h
  cases located : t.locateFile q with
  | error e =>
    rw [located] at h
    cases h
  | ok l =>
    simp only [located, bind, Except.bind] at h
    split at h
    · cases h
    · cases h
      exact ⟨l, rfl, rfl⟩

theorem Apart.read_write (h : Apart p q) (written : t.write q content = .ok t') : t'.read p = t.read p := by
  obtain ⟨l, located, rfl⟩ := exists_of_write written
  exact h.read_put located content

theorem Apart.read_writePart (h : Apart p q) (t : FileTree) (content : List UInt8) :
    (t.writePart q content).read p = t.read p := by
  unfold writePart
  split
  · rfl
  · next l located =>
    split
    · exact h.read_put located _
    · rfl

theorem read_of_located (located : t.locate p = .ok l) (isFile : namesDirectory p = false)
    (found : t.entry? l = some (.file content)) : t.read p = .ok content := by
  simp [read, located, found, isFile, bind, Except.bind]

/-- What was written is read where it was moved to. -/
theorem read_rename {moved : FileTree} (written : t.write q content = .ok t')
    (renamed : t'.rename q p = .ok moved) : moved.read p = .ok content := by
  obtain ⟨l, located, rfl⟩ := exists_of_write written
  obtain ⟨here, isFile, free⟩ := locateFile_eq_ok_iff.1 located
  have still := (keepsDirectories_put free content).locate here
  have source : (t.put l content).read q = .ok content :=
    read_of_located still isFile (by rw [entry?_put, if_pos rfl])
  cases target : (t.put l content).locateFile p with
  | error e =>
    simp [rename, source, target, bind, Except.bind] at renamed
  | ok l' =>
    obtain ⟨there, isFile', free'⟩ := locateFile_eq_ok_iff.1 target
    simp only [rename, source, target, still, bind, Except.bind] at renamed
    split at renamed
    · cases renamed
    · cases renamed
      have moved := (keepsDirectories_move l free' content).locate there
      exact read_of_located moved isFile' (by rw [entry?_put, if_pos rfl])

end Telemetry.FileTree
