import Telemetry.FileTree
import Telemetry.Json.Printer
import Telemetry.Json.Reader
import Telemetry.Store.Basic
import Telemetry.Text.Utf8

/-!
# A store in a file

The values are held in memory and in a file, as one JSON object. Each write puts the whole object into a
temporary file beside the store and moves it into place, so that the file is never half written.
-/

namespace Telemetry.Store

/-! ## The format -/

def Value.json : Value → Json
  | .bool b => .bool b
  | .integer n => .number (.int n.toInt)
  | .string s => .string s

def Value.ofJson? : Json → Option Value
  | .bool b => some (.bool b)
  | .number (.int n) =>
    if -0x8000000000000000 ≤ n ∧ n < 0x8000000000000000 then some (.integer (Int64.ofInt n))
    else none
  | .string s => some (.string s)
  | _ => none

structure File where
  path : String
  tree : FileTree
  values : Dict Value := []
  deriving DecidableEq, Repr

namespace File

def line (entry : String × Value) : String :=
  "  " ++ (Json.string entry.1).render ++ ": " ++ (Value.json entry.2).render

/-- One value a line. -/
def render (values : Dict Value) : String :=
  if values.isEmpty then "\x7b\x7d"
  else "\x7b\n" ++ ",\n".intercalate (values.map line) ++ "\n\x7d"

/-- Every value is checked, also one that a later value of the same key replaces. -/
def parse? (text : String) : Option (Dict Value) :=
  match Json.readWith id text with
  | some (.object fields) =>
    (fields.mapM fun f => (Value.ofJson? f.2).map fun v => (f.1, v)).map Dict.ofList
  | _ => none

def notStore : Error := .serialization "not an object of booleans, integers and strings"

def ofContent (content : List UInt8) : Except Error (Dict Value) :=
  if content.isEmpty then .ok []
  else
    match (Text.ofUtf8? content).bind parse? with
    | some values => .ok values
    | none => .error notStore

/-! ## Operations -/

def unreadable : Error := .io "the store cannot be read"

def unwritable : Error := .io "the store cannot be written"

/-- The store at a path; it is empty if there is no file. -/
def load (path : String) (tree : FileTree) : Except Error File :=
  match tree.read path with
  | .ok content => (ofContent content).map fun values => { path, tree, values }
  | .error .notFound => .ok { path, tree }
  | .error .refused => .error unreadable

def temporary (s : File) : String := FileTree.withExtension "tmp" s.path

/-- Writes the values to the file. A temporary file that cannot be moved stays, as does what there is of one
that cannot be written. -/
def save (values : Dict Value) (s : File) : Except Error Unit × FileTree :=
  let content := Text.utf8 (render values)
  match s.tree.write s.temporary content with
  | .error _ => (.error unwritable, s.tree.writePart s.temporary content)
  | .ok tree =>
    match tree.rename s.temporary s.path with
    | .error _ => (.error unwritable, tree)
    | .ok tree => (.ok (), tree)

/-- Changes the values once the file holds them. -/
def change (f : Dict Value → Dict Value) (s : File) : Except Error Unit × File :=
  match s.save (f s.values) with
  | (.ok (), tree) => (.ok (), { s with tree, values := f s.values })
  | (.error e, tree) => (.error e, { s with tree })

instance : Storage File where
  lookup key s := Dict.find? key s.values
  put key value := change (Dict.put key value)
  clear := change fun _ => []

end File
end Telemetry.Store
