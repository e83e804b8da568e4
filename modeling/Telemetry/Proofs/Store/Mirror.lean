import Telemetry.Proofs.FileTree.Replace
import Telemetry.Proofs.Store
import Telemetry.Proofs.Store.Format

/-!
# Files as stores

A store in a file is mirrored in memory: the memory starts with what the file holds and makes the changes that the
file has taken. A change that cannot be written or moved into place leaves both as they were. So all that is read
is the same, and the file can be opened again at any time.
-/

namespace Telemetry.Store

/-- A change that is asked of a store. -/
inductive Change
  | put (key : String) (value : Option Value)
  | clear
  deriving DecidableEq, Repr

namespace Change

def make {σ : Type} [Storage σ] : Change → σ → Except Error Unit × σ
  | put key value => Storage.put key value
  | clear => Storage.clear

/-- What becomes of the values. -/
def apply : Change → Dict Value → Dict Value
  | put key value => Dict.put key value
  | clear => fun _ => []

theorem isSorted_apply {values : Dict Value} (h : Dict.IsSorted values) (c : Change) :
    Dict.IsSorted (c.apply values) := by
  cases c with
  | put key value => exact h.put key value
  | clear => exact List.Pairwise.nil

theorem make_file (c : Change) (s : File) : c.make s = File.change c.apply s := by
  cases c <;> simp only [make, Storage.put, Storage.clear] <;> congr

theorem make_flash {m : Flash} (h : m.Intact) (c : Change) :
    c.make m = (.ok (), { m with values := c.apply m.values }) := by
  cases c with
  | put key value => exact if_neg (by simp [h.failing])
  | clear => exact if_neg (by simp [h.eraseFails])

end Change

namespace File

section

variable {path : String} {tree tree' : FileTree} {values : Dict Value} {s : File} {m : Flash}

/-! ## Loading and saving -/

/-- The values of a store file that is missing, empty or valid. -/
inductive Stored (path : String) (tree : FileTree) : Dict Value → Prop
  | missing (h : tree.read path = .error .notFound) : Stored path tree []
  | empty (h : tree.read path = .ok []) : Stored path tree []
  | valid {text : String} {values : Dict Value} (h : tree.read path = .ok (Text.utf8 text))
      (parsed : parse? text = some values) : Stored path tree values

theorem Stored.isSorted (h : Stored path tree values) : Dict.IsSorted values := by
  cases h with
  | missing => exact List.Pairwise.nil
  | empty => exact List.Pairwise.nil
  | valid _ parsed => exact isSorted_of_parse? parsed

theorem load_of_stored (h : Stored path tree values) : load path tree = .ok { path, tree, values } := by
  cases h with
  | missing h => simp [load, h]
  | empty h => simp [load, h, ofContent, Except.map]
  | valid h parsed => simp [load, h, ofContent_utf8 parsed, Except.map]

/-- No other file is opened. -/
theorem stored_of_load (h : load path tree = .ok s) :
    Stored path tree s.values ∧ s = { path, tree, values := s.values } := by
  unfold load at h
  split at h
  · next content read =>
    cases found : ofContent content with
    | error e =>
      rw [found] at h
      cases h
    | ok values =>
      rw [found] at h
      cases h
      obtain ⟨rfl, rfl⟩ | ⟨text, rfl, parsed⟩ := ofContent_cases found
      · exact ⟨.empty read, rfl⟩
      · exact ⟨.valid read parsed, rfl⟩
  · next read =>
    cases h
    exact ⟨.missing read, rfl⟩
  · cases h

/-- What is written is stored. -/
theorem stored_of_read (sorted : Dict.IsSorted values)
    (h : tree.read path = .ok (Text.utf8 (render values))) : Stored path tree values :=
  .valid h (parse?_render sorted)

theorem Stored.of_read (h : Stored path tree values) (same : tree'.read path = tree.read path) :
    Stored path tree' values := by
  cases h with
  | missing h => exact .missing (same.trans h)
  | empty h => exact .empty (same.trans h)
  | valid h parsed => exact .valid (same.trans h) parsed

/-- Values are saved, or the file is as it was. -/
theorem save_cases {outcome : Except Error Unit} (apart : FileTree.Apart s.path s.temporary)
    (h : s.save values = (outcome, tree)) :
    (outcome = .ok () ∧ tree.read s.path = .ok (Text.utf8 (render values))) ∨
      (∃ e, outcome = .error e) ∧ tree.read s.path = s.tree.read s.path := by
  unfold save at h
  dsimp only at h
  split at h
  · cases h
    exact .inr ⟨⟨_, rfl⟩, apart.read_writePart s.tree _⟩
  · next written =>
    split at h
    · cases h
      exact .inr ⟨⟨_, rfl⟩, apart.read_write written⟩
    · next moved =>
      cases h
      exact .inl ⟨rfl, FileTree.read_rename written moved⟩

/-- A change is made in memory and in the file, or in neither. -/
theorem change_cases (f : Dict Value → Dict Value) (apart : FileTree.Apart s.path s.temporary)
    (sorted : Dict.IsSorted (f s.values)) (stored : Stored s.path s.tree s.values) :
    ∃ tree, (change f s = (.ok (), { s with tree, values := f s.values }) ∧ Stored s.path tree (f s.values)) ∨
      ∃ e, change f s = (.error e, { s with tree }) ∧ Stored s.path tree s.values := by
  obtain ⟨⟨outcome, tree⟩, saved⟩ : ∃ r, s.save (f s.values) = r := ⟨_, rfl⟩
  refine ⟨tree, ?_⟩
  unfold change
  obtain ⟨rfl, read⟩ | ⟨⟨e, rfl⟩, read⟩ := save_cases apart saved
  · simp only [saved]
    exact .inl ⟨trivial, stored_of_read sorted read⟩
  · simp only [saved]
    exact .inr ⟨e, rfl, stored.of_read read⟩

/-! ## The mirror -/

/-- The memory after a change: it is made there if the file has taken it. -/
def mirrored (c : Change) (outcome : Except Error Unit) (m : Flash) : Flash :=
  match outcome with
  | .ok () => (c.make m).2
  | .error _ => m

/-- A store in a file and its mirror, after any run on a store that has been opened at the path. Between two changes
anything may happen to other files, and writing and moving files may begin to fail or to succeed. -/
inductive Mirrored (path : String) : File → Flash → Prop
  | opened {tree : FileTree} {s : File} (loaded : load path tree = .ok s) : Mirrored path s { values := s.values }
  | others {s : File} {m : Flash} (before : Mirrored path s m) {tree : FileTree}
      (same : tree.read path = s.tree.read path) : Mirrored path { s with tree } m
  | changed {s : File} {m : Flash} (before : Mirrored path s m) (c : Change) :
      Mirrored path (c.make s).2 (mirrored c (c.make s).1 m)

/-- What a run keeps. -/
structure Agrees (path : String) (s : File) (m : Flash) : Prop where
  place : s.path = path
  values : s.values = m.values
  stored : Stored path s.tree s.values
  intact : m.Intact

theorem Agrees.changed (h : Agrees path s m) (apart : FileTree.Apart s.path s.temporary) (c : Change) :
    Agrees path (c.make s).2 (mirrored c (c.make s).1 m) := by
  obtain ⟨rfl, values, stored, intact⟩ := h
  have sorted := Change.isSorted_apply stored.isSorted c
  rw [Change.make_file]
  obtain ⟨tree, ⟨made, after⟩ | ⟨e, failed, after⟩⟩ := change_cases c.apply apart sorted stored
  · rw [made]
    simp only [mirrored, Change.make_flash intact]
    refine ⟨rfl, ?_, after, intact.failing, intact.eraseFails, ?_⟩
    · rw [values]
    · rw [← values]
      exact sorted
  · rw [failed]
    exact ⟨rfl, values, after, intact⟩

theorem Mirrored.agrees (notTmp : FileTree.extension? path ≠ some "tmp") (h : Mirrored path s m) :
    Agrees path s m := by
  induction h with
  | opened loaded =>
    obtain ⟨stored, opened⟩ := stored_of_load loaded
    rw [opened]
    exact ⟨rfl, rfl, stored, rfl, rfl, stored.isSorted⟩
  | others _ same ih => exact ⟨ih.place, ih.values, ih.stored.of_read same, ih.intact⟩
  | @changed s m _ c ih =>
    refine ih.changed ?_ c
    rw [temporary, ih.place]
    exact FileTree.withExtension_cases notTmp

/-- A store in a file reads as its mirror in memory does. The file can be opened again at any point, and what is
found in it then is what the mirror holds. -/
theorem mirrored_durable (notTmp : FileTree.extension? path ≠ some "tmp") (h : Mirrored path s m) :
    (∀ key, Storage.string? key s = Storage.string? key m ∧ Storage.integer? key s = Storage.integer? key m ∧
      Storage.bool? key s = Storage.bool? key m) ∧
    load path s.tree = .ok { path, tree := s.tree, values := m.values } := by
  obtain ⟨-, values, stored, -⟩ := h.agrees notTmp
  refine ⟨fun key => ?_, ?_⟩
  · have same : Storage.lookup key s = Storage.lookup key m := congrArg (Dict.find? key) values
    simp only [Storage.string?, Storage.integer?, Storage.bool?, same, and_self]
  · exact (load_of_stored stored).trans (by rw [values])

end

/-! A host is added to a store that was written by hand. Then the disk is full, and the port is not removed. Then the
file is stuck, and nothing is cleared. -/

namespace Sample

def path : String := "data/store.json"

def text : String := "\x7b\"port\": 1883, \"port\": 8883\x7d"

def disk : FileTree where
  files := [(["data", "store.json"], Text.utf8 text)]
  directories := [["data"]]

def values : Dict Value := [("port", .integer 8883)]

/-- The store and its mirror after a change. -/
def next (c : Change) (r : File × Flash) : File × Flash := ((c.make r.1).2, mirrored c (c.make r.1).1 r.2)

/-- Something has happened to the disk. -/
def onDisk (tree : FileTree) (r : File × Flash) : File × Flash := ({ r.1 with tree }, r.2)

def opened : File × Flash := ({ path, tree := disk, values }, { values })

def added : File × Flash := next (.put "host" (some (.string "broker"))) opened

def full : FileTree := { added.1.tree with breaks := [(["data", "store.tmp"], 3)] }

def kept : File × Flash := next (.put "port" none) (onDisk full added)

def stuck : FileTree := { kept.1.tree with breaks := [], stuck := [["data", "store.json"]] }

def final : File × Flash := next .clear (onDisk stuck kept)

theorem loaded : load path disk = .ok opened.1 := by
  have read : disk.read path = .ok (Text.utf8 text) := by decide +kernel
  have parsed : parse? text = some values := by decide +kernel
  exact load_of_stored (.valid read parsed)

theorem mirrored_next {r : File × Flash} (h : Mirrored path r.1 r.2) (c : Change) :
    Mirrored path (next c r).1 (next c r).2 := .changed h c

theorem mirrored_onDisk {r : File × Flash} (h : Mirrored path r.1 r.2) {tree : FileTree}
    (same : tree.read path = r.1.tree.read path) : Mirrored path (onDisk tree r).1 (onDisk tree r).2 :=
  .others h same

theorem mirrored_final : Mirrored path final.1 final.2 := by
  have atOpening : Mirrored path opened.1 opened.2 := .opened loaded
  have atAdded := mirrored_next atOpening (.put "host" (some (.string "broker")))
  have atFull : Mirrored path (onDisk full added).1 (onDisk full added).2 := mirrored_onDisk atAdded (by decide +kernel)
  have atKept := mirrored_next atFull (.put "port" none)
  have atStuck : Mirrored path (onDisk stuck kept).1 (onDisk stuck kept).2 := mirrored_onDisk atKept (by decide +kernel)
  exact mirrored_next atStuck .clear

/-- After the two failures the host and the port are read, as is what a store holds that is opened then. -/
theorem host_kept :
    FileTree.extension? path ≠ some "tmp" ∧ Mirrored path final.1 final.2 ∧
    (Storage.string? "host" final.1 = some "broker" ∧ Storage.integer? "port" final.1 = some 8883) ∧
    load path final.1.tree = .ok { path, tree := final.1.tree, values := final.2.values } := by
  have notTmp : FileTree.extension? path ≠ some "tmp" := by decide +kernel
  obtain ⟨read, again⟩ := mirrored_durable notTmp mirrored_final
  have host : Storage.string? "host" final.2 = some "broker" := by decide +kernel
  have port : Storage.integer? "port" final.2 = some 8883 := by decide +kernel
  exact ⟨notTmp, mirrored_final, ⟨(read "host").1.trans host, (read "port").2.1.trans port⟩, again⟩

end Sample

end File
end Telemetry.Store
