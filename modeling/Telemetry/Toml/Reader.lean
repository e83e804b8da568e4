import Telemetry.Toml.Assembly
import Telemetry.Toml.Moment
import Telemetry.Toml.Number
import Telemetry.Toml.Quoted

/-!
# Reading TOML

A document is read into statements, which are then assembled. Arrays and braces may be nested at most
79 deep, and a key has at most 79 parts. A `bound` is more than the number of characters of the document.
-/

namespace Telemetry.Toml

namespace Scanner

/-- The bound that nesting and keys stay below. -/
def maxDepth : Nat := 80

variable (bound : Nat)

/-! ## Keys -/

def isBareKeyChar (c : Char) : Bool := c.isAlphanum || c == '-' || c == '_'

def simpleKey : Scanner String := do
  match ← peek? with
  | some '"' => return String.ofList (← basic bound)
  | some '\'' => return String.ofList (← literal)
  | _ =>
    match ← span isBareKeyChar with
    | [] => refuse
    | cs => return String.ofList cs

/-- The parts of a dotted key, at most `fuel` of them, with blanks around each. -/
def keyParts : Nat → Scanner (List String)
  | 0 => refuse
  | fuel + 1 => do
    blanks
    let part ← simpleKey bound
    blanks
    if ← optional ['.'] then return part :: (← keyParts fuel) else return [part]

def key : Scanner (List String) := keyParts bound (maxDepth - 1)

/-- A key as the path to a table and the key in it. -/
def splitKey (parts : List String) : List String × String := (parts.dropLast, parts.getLastD "")

/-! ## Values -/

def word (text : String) (value : Toml) : Scanner Toml := do
  if ← optional text.toList then return value else refuse

/-- A value without parts of its own. -/
def scalar : Scanner Toml := do
  match ← peek? with
  | some '"' | some '\'' => return .string (← string bound)
  | some 't' => word "true" (.boolean true)
  | some 'f' => word "false" (.boolean false)
  | _ =>
    match ← attempt moment with
    | some () => return .moment
    | none => number

mutual

/-- A value inside `depth` brackets. -/
def value (depth : Nat) : Nat → Scanner Toml
  | 0 => refuse
  | fuel + 1 => do
    match ← peek? with
    | some '[' =>
      if maxDepth ≤ depth + 1 then refuse
      expect '['
      return .array (← items (depth + 1) fuel)
    | some '\x7b' =>
      if maxDepth ≤ depth + 1 then refuse
      expect '\x7b'
      blanks
      let closed ← optional ['\x7d']
      let ps ← if closed then pure [] else pairs (depth + 1) fuel
      match assembleInline ps with
      | some fields => return .inline fields
      | none => refuse
    | _ => scalar bound

/-- The rest of an array after its bracket or a comma. -/
def items (depth : Nat) : Nat → Scanner (List Toml)
  | 0 => refuse
  | fuel + 1 => do
    gaps
    if ← optional [']'] then return []
    let v ← value depth fuel
    gaps
    if ← optional [','] then return v :: (← items depth fuel)
    expect ']'
    return [v]

/-- The rest of a table in braces after its brace or a comma. -/
def pairs (depth : Nat) : Nat → Scanner (List (List String × String × Toml))
  | 0 => refuse
  | fuel + 1 => do
    let k ← key bound
    expect '='
    blanks
    let v ← value depth fuel
    blanks
    let pair := ((splitKey k).1, (splitKey k).2, v)
    if ← optional [','] then return pair :: (← pairs depth fuel)
    expect '\x7d'
    return [pair]

end

/-! ## Statements -/

def header : Scanner Statement := do
  if ← optional ['[', '['] then
    let path ← key bound
    expect ']'
    expect ']'
    return .member path
  else
    expect '['
    let path ← key bound
    expect ']'
    return .header path

def pair : Scanner Statement := do
  let k ← key bound
  expect '='
  blanks
  let v ← value bound 0 (2 * bound)
  return .pair (splitKey k).1 (splitKey k).2 v

/-- The statements of a document, one a line. -/
def statements : Nat → Scanner (List Statement)
  | 0 => refuse
  | fuel + 1 => do
    blanks
    match ← peek? with
    | none => return []
    | some '#' | some '\r' | some '\n' =>
      lineEnd
      statements fuel
    | some '[' =>
      let s ← header bound
      lineEnd
      return s :: (← statements fuel)
    | some _ =>
      let s ← pair bound
      lineEnd
      return s :: (← statements fuel)

end Scanner

def byteOrderMark : Char := '\uFEFF'

/-- The table that a document describes. -/
def read? (s : String) : Option Fields :=
  let cs := s.toList
  let cs := if cs.head? = some byteOrderMark then cs.tail else cs
  match (Scanner.statements (cs.length + 1) (cs.length + 1)).run cs with
  | some (ss, []) => assemble ss
  | _ => none

end Telemetry.Toml
