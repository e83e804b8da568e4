import Mathlib.Data.List.TakeWhile
import Telemetry.FileTree

/-!
# Paths

A path is what stands before its last name and this name. What is dropped at its end says nothing about where
it leads. A path with another extension leads to a sibling: the names on the way are the same, and only the
last one differs. Where it does not, it names a directory by its form.
-/

namespace Telemetry

theorem Text.splitAll_eq_splitOn (c : Char) (cs : List Char) : splitAll c cs = cs.splitOn c := by
  induction cs with
  | nil => simp [splitAll]
  | cons x xs ih =>
    rw [splitAll, ih, List.splitOn_cons_eq_if_modifyHead]
    obtain ⟨piece, rest, whole⟩ := List.exists_cons_of_ne_nil (List.splitOn_ne_nil c xs)
    by_cases h : x = c <;> simp [h, whole]

namespace FileTree

open Text (splitAll_eq_splitOn)

/-! ## Segments -/

theorem segments_append (a b : List Char) :
    segments (String.ofList (a ++ '/' :: b)) =
      segments (String.ofList a) ++ segments (String.ofList b) := by
  simp [segments, splitAll_eq_splitOn, List.splitOn_append_cons_self]

@[simp] theorem segments_nil : segments (String.ofList []) = [] := rfl

@[simp] theorem segments_dot : segments (String.ofList ['.']) = [] := rfl

/-- Is the text one name, of a file or of the directory above? -/
structure IsName (w : List Char) : Prop where
  whole : '/' ∉ w
  filled : w ≠ []
  other : w ≠ ['.']

theorem segments_of_isName {w : List Char} (h : IsName w) :
    segments (String.ofList w) = [String.ofList w] := by
  have dot : String.ofList w ≠ "." := fun he => h.other (by simpa using congrArg String.toList he)
  simp [segments, splitAll_eq_splitOn, List.splitOn_eq_singleton h.whole, h.filled, dot]

/-- May a name follow? -/
def EndsSegment (p : List Char) : Prop := p = [] ∨ ∃ q, p = q ++ ['/']

theorem segments_name {p w : List Char} (hp : EndsSegment p) (hw : IsName w) :
    segments (String.ofList (p ++ w)) = segments (String.ofList p) ++ [String.ofList w] := by
  have last := segments_of_isName hw
  rcases hp with rfl | ⟨q, rfl⟩
  · rw [List.nil_append, last, segments_nil, List.nil_append]
  · simp only [List.append_assoc, List.singleton_append, segments_append, last, segments_nil,
      List.append_nil]

theorem namesDirectory_append {p w : List Char} (hp : EndsSegment p) (hw : '/' ∉ w) :
    namesDirectory (String.ofList (p ++ w)) = true ↔ w = [] ∨ w = ['.'] ∨ w = ['.', '.'] := by
  have last : (Text.splitAll '/' (p ++ w)).getLast? = some w := by
    rw [splitAll_eq_splitOn]
    rcases hp with rfl | ⟨q, rfl⟩
    · simp [List.splitOn_eq_singleton hw]
    · simp [List.splitOn_append_cons_self, List.splitOn_eq_singleton hw]
  simp [namesDirectory, last, or_assoc]

/-! ## The last name -/

/-- What is dropped says nothing. -/
theorem segments_dropTail (cs : List Char) :
    segments (String.ofList (dropTail cs).reverse) = segments (String.ofList cs.reverse) := by
  fun_induction dropTail cs with
  | case1 cs ih => rw [ih, List.reverse_cons, segments_append, segments_nil, List.append_nil]
  | case2 cs ih =>
    have dropped : ('.' :: '/' :: cs).reverse = cs.reverse ++ '/' :: ['.'] := by simp
    rw [ih, dropped, List.reverse_cons, segments_append, segments_append, segments_nil, segments_dot]
  | case3 => rfl

theorem dropTail_suffix (cs : List Char) : dropTail cs <:+ cs := by
  fun_induction dropTail cs with
  | case1 cs ih => exact ih.trans (List.suffix_cons _ _)
  | case2 cs ih => exact ih.trans (List.suffix_cons _ _)
  | case3 => exact List.suffix_rfl

theorem endsSegment_parent (path : String) : EndsSegment (parent path) := by
  unfold parent
  cases h : (dropTail path.toList.reverse).dropWhile (· ≠ '/') with
  | nil => exact .inl rfl
  | cons c rest =>
    have slash : c = '/' := by
      have stopped := List.head?_dropWhile_not (· ≠ '/') (dropTail path.toList.reverse)
      rw [h] at stopped
      simpa using stopped
    exact .inr ⟨rest.reverse, by simp [slash]⟩

theorem notMem_name (path : String) : '/' ∉ name path := by
  intro h
  have passed := List.mem_takeWhile_imp (List.mem_reverse.1 h)
  simp at passed

theorem parent_append_name (path : String) :
    parent path ++ name path = (dropTail path.toList.reverse).reverse := by
  rw [parent, name, ← List.reverse_append, List.takeWhile_append_dropWhile]

/-- A path at whose end something is dropped names a directory. -/
theorem namesDirectory_of_dropped {path : String} (h : dropTail path.toList.reverse ≠ path.toList.reverse) :
    namesDirectory path = true := by
  have ends : ∃ q w, path.toList = (q ++ ['/']) ++ w ∧ (w = [] ∨ w = ['.']) := by
    generalize shape : path.toList.reverse = cs at h
    rw [List.reverse_eq_iff] at shape
    revert h
    fun_cases dropTail cs with
    | case1 cs => exact fun _ => ⟨cs.reverse, [], by simpa using shape, .inl rfl⟩
    | case2 cs => exact fun _ => ⟨cs.reverse, ['.'], by simpa using shape, .inr rfl⟩
    | case3 => exact fun h => absurd rfl h
  obtain ⟨q, w, shape, short⟩ := ends
  rw [← String.ofList_toList (s := path), shape]
  rw [namesDirectory_append (.inr ⟨q, rfl⟩) (by rcases short with rfl | rfl <;> simp)]
  grind

theorem toList_of_kept {path : String} (h : dropTail path.toList.reverse = path.toList.reverse) :
    path.toList = parent path ++ name path := by
  rw [parent_append_name, h, List.reverse_reverse]

/-- A path that does not end in the name of a file names a directory. -/
theorem namesDirectory_of_not_namesFile {path : String} (h : namesFile path = false) :
    namesDirectory path = true := by
  by_cases kept : dropTail path.toList.reverse = path.toList.reverse
  · rw [← String.ofList_toList (s := path), toList_of_kept kept,
      namesDirectory_append (endsSegment_parent path) (notMem_name path)]
    simp [namesFile] at h
    grind
  · exact namesDirectory_of_dropped kept

theorem segments_eq (path : String) (h : namesFile path = true) :
    segments path = segments (String.ofList (parent path)) ++ [String.ofList (name path)] := by
  simp only [namesFile, Bool.and_eq_true, decide_eq_true_eq] at h
  obtain ⟨⟨filled, other⟩, -⟩ := h
  rw [← segments_name (endsSegment_parent path) ⟨notMem_name path, filled, other⟩, parent_append_name,
    segments_dropTail, List.reverse_reverse, String.ofList_toList]

/-- Whether a path starts at the root shows before its last name. -/
theorem isAbsolute_append {p : List Char} (hp : EndsSegment p) {c : Char} (hc : c ≠ '/') (cs : List Char) :
    isAbsolute (String.ofList (p ++ c :: cs)) = (p.head? == some '/') := by
  rcases hp with rfl | ⟨q, rfl⟩
  · simp [isAbsolute, hc]
  · cases q <;> simp [isAbsolute]

theorem isAbsolute_eq {path : String} (filled : name path ≠ []) :
    isAbsolute path = ((parent path).head? == some '/') := by
  obtain ⟨tail, shape⟩ := dropTail_suffix path.toList.reverse
  have whole : path.toList = parent path ++ (name path ++ tail.reverse) := by
    rw [← List.append_assoc, parent_append_name, ← List.reverse_append, shape, List.reverse_reverse]
  have unslashed := notMem_name path
  obtain ⟨c, cs, first⟩ := List.exists_cons_of_ne_nil filled
  rw [first] at whole unslashed
  have differs : c ≠ '/' := by grind
  rw [← isAbsolute_append (endsSegment_parent path) differs (cs ++ tail.reverse), ← List.cons_append,
    ← whole, String.ofList_toList]

/-! ## Extensions -/

theorem intercalate_concat {sep : List Char} {pieces : List (List Char)} (h : pieces ≠ []) (last : List Char) :
    sep.intercalate (pieces ++ [last]) = sep.intercalate pieces ++ sep ++ last := by
  induction pieces with
  | nil => exact absurd rfl h
  | cons piece rest ih =>
    cases rest with
    | nil => simp [List.intercalate_cons_cons]
    | cons next rest => simp_all [List.intercalate_cons_cons]

/-- The name of a file is its stem, or its stem and its extension. -/
theorem stem_cases {path : String} (h : namesFile path = true) :
    stem (name path) = name path ∨
      ∃ e, name path = stem (name path) ++ '.' :: e ∧ extension? path = some (String.ofList e) := by
  have whole : ['.'].intercalate ((name path).splitOn '.') = name path := List.intercalate_splitOn '.'
  have filled := List.splitOn_ne_nil '.' (name path)
  simp only [stem, extension?, h, splitAll_eq_splitOn, if_true]
  split
  · exact .inl rfl
  · exact .inl rfl
  · next none _ =>
    refine .inr ⟨((name path).splitOn '.').getLast filled, ?_, ?_⟩
    · rw [← List.dropLast_concat_getLast filled, intercalate_concat none] at whole
      simpa using whole.symm
    · simp [List.getLast?_eq_some_getLast filled]

/-- The paths lead to two places in one directory. -/
structure Siblings (p q : String) : Prop where
  isAbsolute : isAbsolute p = isAbsolute q
  segments : ∃ names n m, segments p = names ++ [n] ∧ segments q = names ++ [m] ∧
    n ≠ m ∧ n ≠ ".." ∧ m ≠ ".."

/-- Beside a file stands one whose name has another extension. -/
theorem siblings_of_stem {path : String} (h : namesFile path = true) (other : extension? path ≠ some "tmp") :
    Siblings path (String.ofList (parent path ++ (stem (name path) ++ ['.', 't', 'm', 'p']))) := by
  have cases := stem_cases h
  have segmentsPath := segments_eq path h
  have whole := notMem_name path
  have ends := endsSegment_parent path
  simp only [namesFile, Bool.and_eq_true, decide_eq_true_eq] at h
  obtain ⟨⟨filled, -⟩, above⟩ := h
  have absolute := isAbsolute_eq filled
  generalize stem (name path) = w at *
  generalize name path = v at *
  have wWhole : '/' ∉ w := by
    rcases cases with rfl | ⟨e, rfl, -⟩
    · exact whole
    · simp_all
  have differs : v ≠ w ++ ['.', 't', 'm', 'p'] := by
    rintro rfl
    rcases cases with same | ⟨e, shape, extension⟩
    · simp at same
    · have tmp : e = ['t', 'm', 'p'] := by simpa using (List.append_cancel_left shape).symm
      exact other (by rw [extension, tmp])
  have isName : IsName (w ++ ['.', 't', 'm', 'p']) := by
    refine ⟨by simp [wWhole], by simp, ?_⟩
    intro he
    simpa using congrArg List.length he
  have notAbove : w ++ ['.', 't', 'm', 'p'] ≠ ['.', '.'] := by
    intro he
    simpa using congrArg List.length he
  refine ⟨?_, _, _, _, segmentsPath, segments_name ends isName, ?_, ?_, ?_⟩
  · rw [absolute]
    cases w with
    | nil => exact (isAbsolute_append ends (by decide) _).symm
    | cons c w => exact (isAbsolute_append ends (by grind) _).symm
  · exact fun he => differs (String.ofList_injective he)
  · exact fun he => above (String.ofList_injective he)
  · exact fun he => notAbove (String.ofList_injective he)

/-- With another extension a path leads to a sibling, or it names a directory and no file can be there. -/
theorem withExtension_cases {path : String} (h : extension? path ≠ some "tmp") :
    Siblings path (withExtension "tmp" path) ∨ namesDirectory (withExtension "tmp" path) = true := by
  simp only [withExtension]
  split
  · next none => exact .inr (namesDirectory_of_not_namesFile (by simpa using none))
  · next some =>
    split
    · exact .inr ((namesDirectory_append (endsSegment_parent path) (by decide)).2 (.inr (.inr rfl)))
    · have beside := siblings_of_stem (by simpa using some) h
      rw [← List.append_assoc] at beside
      exact .inl beside

end FileTree
end Telemetry
