/-!
# Scanning JSON

A machine that reads a JSON text one character at a time and keeps only what it needs to tell
whether the text can still be completed: where it stands inside a value, and which containers are
open. There is no bound on nesting or on the size of numbers, and inside strings any character but
a quote, a backslash or a control character passes.

`isJson` runs the machine on raw bytes, each taken as one character.
-/

namespace Telemetry.Json

inductive Bracket
  | array
  | object
  deriving DecidableEq, Repr

/-- The parts of a number, named for the character read last. -/
inductive NumberPart
  | minus
  | zero
  | whole
  | point
  | fraction
  | mark
  | sign
  | exponent
  deriving DecidableEq, Repr

/-- Where a scan stands. -/
inductive Mode
  /-- A value has to follow. -/
  | value
  /-- After `[`: a value or the end of the array. -/
  | firstItem
  /-- After an opening brace: a key or the end of the object. -/
  | firstKey
  /-- After a comma in an object. -/
  | key
  /-- After a key. -/
  | colon
  /-- A value has ended. -/
  | done
  | text (isKey : Bool)
  | escape (isKey : Bool)
  /-- So many hexadecimal digits are still to come. -/
  | hex (isKey : Bool) (more : Nat)
  /-- These letters complete the word. -/
  | word (rest : List Char)
  | number (part : NumberPart)
  deriving DecidableEq, Repr

structure Scan where
  mode : Mode
  /-- The open containers, innermost first. -/
  nesting : List Bracket
  deriving DecidableEq, Repr

def isSpace (c : Char) : Bool := c == ' ' || c == '\t' || c == '\n' || c == '\r'

def isHexDigit (c : Char) : Bool :=
  c.isDigit || ('a' ≤ c && c ≤ 'f') || ('A' ≤ c && c ≤ 'F')

/-- May a number end here? -/
def NumberPart.isComplete : NumberPart → Bool
  | zero | whole | fraction | exponent => true
  | minus | point | mark | sign => false

/-- The part that `c` continues a number with. -/
def NumberPart.next? (part : NumberPart) (c : Char) : Option NumberPart :=
  let startExponent := if c = 'e' ∨ c = 'E' then some .mark else none
  match part with
  | minus => if c = '0' then some zero else if c.isDigit then some whole else none
  | zero => if c = '.' then some point else startExponent
  | whole => if c.isDigit then some whole else if c = '.' then some point else startExponent
  | point => if c.isDigit then some fraction else none
  | fraction => if c.isDigit then some fraction else startExponent
  | mark => if c.isDigit then some exponent else if c = '+' ∨ c = '-' then some sign else none
  | sign | exponent => if c.isDigit then some exponent else none

namespace Scan

def start : Scan := ⟨.value, []⟩

/-- The first character of a value. -/
def beginValue (nesting : List Bracket) (c : Char) : Option Scan :=
  match c with
  | '"' => some ⟨.text false, nesting⟩
  | '[' => some ⟨.firstItem, .array :: nesting⟩
  | '\x7b' => some ⟨.firstKey, .object :: nesting⟩
  | 't' => some ⟨.word ['r', 'u', 'e'], nesting⟩
  | 'f' => some ⟨.word ['a', 'l', 's', 'e'], nesting⟩
  | 'n' => some ⟨.word ['u', 'l', 'l'], nesting⟩
  | '-' => some ⟨.number .minus, nesting⟩
  | '0' => some ⟨.number .zero, nesting⟩
  | c => if c.isDigit then some ⟨.number .whole, nesting⟩ else none

/-- A character after a value: a space, a comma, or the end of the innermost container. -/
def afterValue (nesting : List Bracket) (c : Char) : Option Scan :=
  if isSpace c then some ⟨.done, nesting⟩
  else
    match nesting, c with
    | .array :: _, ',' => some ⟨.value, nesting⟩
    | .array :: outer, ']' => some ⟨.done, outer⟩
    | .object :: _, ',' => some ⟨.key, nesting⟩
    | .object :: outer, '\x7d' => some ⟨.done, outer⟩
    | _, _ => none

/-- After the closing quote of a string. -/
def closeText (isKey : Bool) (nesting : List Bracket) : Scan :=
  ⟨if isKey then .colon else .done, nesting⟩

def step (s : Scan) (c : Char) : Option Scan :=
  match s.mode with
  | .value => if isSpace c then some s else beginValue s.nesting c
  | .firstItem =>
    if isSpace c then some s
    else if c = ']' then some ⟨.done, s.nesting.tail⟩
    else beginValue s.nesting c
  | .firstKey =>
    if isSpace c then some s
    else if c = '\x7d' then some ⟨.done, s.nesting.tail⟩
    else if c = '"' then some ⟨.text true, s.nesting⟩
    else none
  | .key =>
    if isSpace c then some s else if c = '"' then some ⟨.text true, s.nesting⟩ else none
  | .colon => if isSpace c then some s else if c = ':' then some ⟨.value, s.nesting⟩ else none
  | .done => afterValue s.nesting c
  | .text isKey =>
    if c = '"' then some (closeText isKey s.nesting)
    else if c = '\\' then some ⟨.escape isKey, s.nesting⟩
    else if c.toNat < 0x20 then none
    else some s
  | .escape isKey =>
    if c = 'u' then some ⟨.hex isKey 4, s.nesting⟩
    else if c ∈ ['"', '\\', '/', 'b', 'f', 'n', 'r', 't'] then some ⟨.text isKey, s.nesting⟩
    else none
  | .hex isKey more =>
    if isHexDigit c then
      some ⟨if more ≤ 1 then .text isKey else .hex isKey (more - 1), s.nesting⟩
    else none
  | .word [] => afterValue s.nesting c
  | .word (l :: rest) =>
    if c = l then some ⟨if rest.isEmpty then .done else .word rest, s.nesting⟩ else none
  | .number part =>
    match part.next? c with
    | some next => some ⟨.number next, s.nesting⟩
    | none => if part.isComplete then afterValue s.nesting c else none

/-- Has a whole value been read? -/
def isComplete (s : Scan) : Bool :=
  s.nesting.isEmpty &&
    match s.mode with
    | .done => true
    | .number part => part.isComplete
    | _ => false

def run (s : Scan) (cs : List Char) : Option Scan := cs.foldlM step s

@[simp] theorem run_nil (s : Scan) : s.run [] = some s := rfl

@[simp] theorem run_cons (s : Scan) (c : Char) (cs : List Char) :
    s.run (c :: cs) = (s.step c).bind fun t => t.run cs := rfl

theorem run_append (s : Scan) (a b : List Char) :
    s.run (a ++ b) = (s.run a).bind fun t => t.run b := by
  simp [run, List.foldlM_append]

end Scan

/-- Is the text one JSON value, with spaces around it? -/
def scans (cs : List Char) : Bool :=
  match Scan.start.run cs with
  | some s => s.isComplete
  | none => false

/-- Do the bytes form one JSON value? The contents of strings need not be valid UTF-8. -/
def isJson (bytes : List UInt8) : Bool :=
  match bytes.foldlM (fun s b => Scan.step s (Char.ofNat b.toNat)) Scan.start with
  | some s => s.isComplete
  | none => false

theorem isJson_eq_scans (bytes : List UInt8) :
    isJson bytes = scans (bytes.map fun b => Char.ofNat b.toNat) := by
  simp [isJson, scans, Scan.run, List.foldlM_map]

end Telemetry.Json
