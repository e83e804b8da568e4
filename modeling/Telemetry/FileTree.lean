import Telemetry.Text.Cut

/-!
# File trees

The files that a program can see, as a value: which files and directories there are and what the files
hold. A path is text; it is resolved segment by segment, as a file system does. The tree also says where
writing breaks off and where files cannot be replaced, as on a disk that is full or worn out.
-/

namespace Telemetry

/-- The names on the way from the root. -/
abbrev FileTree.Location := List String

/-- Why an operation on files fails. -/
inductive FileTree.Fault
  | notFound
  | refused
  deriving DecidableEq, Repr

inductive FileTree.Entry
  | file (content : List UInt8)
  | directory
  deriving DecidableEq, Repr

structure FileTree where
  files : List (FileTree.Location × List UInt8) := []
  directories : List FileTree.Location := []
  /-- Where relative paths start. -/
  workingDirectory : FileTree.Location := []
  /-- Where writing breaks off, and after how many bytes. -/
  breaks : List (FileTree.Location × Nat) := []
  /-- Where no file can be moved to. -/
  stuck : List FileTree.Location := []
  deriving DecidableEq, Repr

namespace FileTree

/-! ## Paths -/

/-- The segments of a path; empty ones and dots say nothing. -/
def segments (path : String) : List String :=
  ((Text.splitAll '/' path.toList).map String.ofList).filter fun s => s ≠ "" ∧ s ≠ "."

def isAbsolute (path : String) : Bool := path.toList.head? == some '/'

/-- Does the path name a directory by its form? -/
def namesDirectory (path : String) : Bool :=
  match (Text.splitAll '/' path.toList).getLast? with
  | some last => last == [] || last == ['.'] || last == ['.', '.']
  | none => false

/-- The name without its extension. A dot at the front begins no extension. -/
def stem (name : List Char) : List Char :=
  match (Text.splitAll '.' name).dropLast with
  | [] | [[]] => name
  | pieces => ['.'].intercalate pieces

/-- A path read backwards, without what says nothing at its end. -/
def dropTail : List Char → List Char
  | '/' :: cs => dropTail cs
  | '.' :: '/' :: cs => dropTail ('/' :: cs)
  | cs => cs

/-- The last name in a path. -/
def name (path : String) : List Char :=
  ((dropTail path.toList.reverse).takeWhile (· ≠ '/')).reverse

/-- What stands before the last name. -/
def parent (path : String) : List Char :=
  ((dropTail path.toList.reverse).dropWhile (· ≠ '/')).reverse

/-- Does the path end in a name that a file can have? -/
def namesFile (path : String) : Bool :=
  name path ≠ [] && name path ≠ ['.'] && name path ≠ ['.', '.']

/-- What follows the last dot in the name of a file. -/
def extension? (path : String) : Option String :=
  if namesFile path then
    match (Text.splitAll '.' (name path)).dropLast with
    | [] | [[]] => none
    | _ => (Text.splitAll '.' (name path)).getLast?.map String.ofList
  else none

/-- The path with another extension; a path that names no file is left as it is. The old extension is
taken off first, and two dots that are left then name the directory above. -/
def withExtension (extension path : String) : String :=
  let backwards := path.toList.reverse
  if !namesFile path then path
  else if stem (name path) = ['.'] ∧ dropTail backwards = backwards then
    String.ofList (parent path ++ ['.', '.'])
  else String.ofList (parent path ++ stem (name path) ++ '.' :: extension.toList)

/-- The longest name that a file system takes, in bytes. -/
def maxName : Nat := 255

/-- The longest path, in bytes. -/
def maxPath : Nat := 4095

/-! ## Looking things up -/

def entry? (t : FileTree) (l : Location) : Option Entry :=
  match t.files.find? fun f => f.1 == l with
  | some f => some (.file f.2)
  | none => if l == [] || t.directories.contains l then some .directory else none

/-- Follows names from a location; all but the last must lead to directories. -/
def walk (t : FileTree) : Location → List String → Except Fault Location
  | here, [] => .ok here
  | here, name :: rest =>
    let next := if name = ".." then here.dropLast else here ++ [name]
    if maxName < name.utf8ByteSize then .error .refused
    else if rest.isEmpty then .ok next
    else
      match t.entry? next with
      | some .directory => walk t next rest
      | some (.file _) => .error .refused
      | none => .error .notFound

def locate (t : FileTree) (path : String) : Except Fault Location :=
  if path.isEmpty then .error .notFound
  else if path.toList.contains '\x00' ∨ maxPath < path.utf8ByteSize then .error .refused
  else t.walk (if isAbsolute path then [] else t.workingDirectory) (segments path)

def doesExist (t : FileTree) (path : String) : Bool :=
  match t.locate path with
  | .error _ => false
  | .ok l =>
    match t.entry? l with
    | some .directory => true
    | some (.file _) => !namesDirectory path
    | none => false

def read (t : FileTree) (path : String) : Except Fault (List UInt8) := do
  match t.entry? (← t.locate path) with
  | some (.file content) => if namesDirectory path then .error .refused else .ok content
  | some .directory => .error .refused
  | none => .error .notFound

/-! ## Changing the tree -/

/-- Puts a file where there may be one already. -/
def put (l : Location) (content : List UInt8) (t : FileTree) : FileTree :=
  { t with files := t.files.filter (fun f => f.1 != l) ++ [(l, content)] }

def erase (l : Location) (t : FileTree) : FileTree :=
  { t with files := t.files.filter fun f => f.1 != l }

/-- The location of a file that may be written: there is no directory in its place. -/
def locateFile (t : FileTree) (path : String) : Except Fault Location := do
  let l ← t.locate path
  if namesDirectory path || t.entry? l == some .directory then .error .refused else .ok l

def write (path : String) (content : List UInt8) (t : FileTree) : Except Fault FileTree := do
  let l ← t.locateFile path
  if (t.breaks.lookup l).isSome then .error .refused else .ok (t.put l content)

/-- What a write leaves that has failed: the beginning of the content, if the writing broke off. -/
def writePart (path : String) (content : List UInt8) (t : FileTree) : FileTree :=
  match t.locateFile path with
  | .error _ => t
  | .ok l =>
    match t.breaks.lookup l with
    | some n => t.put l (content.take n)
    | none => t

/-- Moves a file, replacing what was there. -/
def rename (source target : String) (t : FileTree) : Except Fault FileTree := do
  let content ← t.read source
  let l ← t.locateFile target
  if t.stuck.contains l then .error .refused
  else return (t.erase (← t.locate source)).put l content

def makeDirectory (l : Location) (t : FileTree) : FileTree :=
  if (t.entry? l).isSome then t else { t with directories := l :: t.directories }

def removeDirectory (l : Location) (t : FileTree) : FileTree :=
  { t with directories := t.directories.filter (· != l) }

/-- Puts a file at a location and makes the directories on the way to it. -/
def plant (l : Location) (content : List UInt8) (t : FileTree) : FileTree :=
  ((List.range l.length).foldl (fun t n => t.makeDirectory (l.take n)) t).put l content

/-- The files below the working directory, by their paths from there. -/
def visible (t : FileTree) : List (String × List UInt8) :=
  t.files.filterMap fun f =>
    if t.workingDirectory.isPrefixOf f.1 then
      some ("/".intercalate (f.1.drop t.workingDirectory.length), f.2)
    else none

end FileTree
end Telemetry
