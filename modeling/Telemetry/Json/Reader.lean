import Telemetry.Json.Basic
import Telemetry.Json.Quoted
import Telemetry.Json.Scan
import Telemetry.Text.Decimal

/-!
# Reading JSON

The reader follows the scanning machine and builds values as it goes: it collects the characters of
the token at hand, keeps the containers that are still open, and hands each finished value to the
innermost of them. Beyond what the machine refuses it refuses more than 127 open containers, half a
surrogate pair, and numbers too large for a binary64.
-/

namespace Telemetry.Json

/-- At most so many containers may be open at once. -/
def maxDepth : Nat := 127

/-- The exponent of a number, from the characters after its digits. -/
def exponentValue : List Char → Int
  | _ :: '-' :: ds => -(Text.digitsValue ds : Int)
  | _ :: '+' :: ds => Text.digitsValue ds
  | _ :: ds => Text.digitsValue ds
  | [] => 0

/-- Takes digits into a significand of 64 bits, up to the first one it has no room for: the new
significand and the digits that are left. -/
def takeDigits (significand : Nat) : List Char → Nat × List Char
  | [] => (significand, [])
  | d :: ds =>
    let n := 10 * significand + Text.digitValue d
    if n < 0x10000000000000000 then takeDigits n ds else (significand, d :: ds)

/-- The binary fraction that digits, digits after the point and an exponent stand for. Only the
leading digits count, as many as 64 bits hold, and the power of ten is applied in machine
arithmetic, so the result need not be the nearest number. -/
def fractionValue (negative : Bool) (whole fraction : List Char) (exponent : Int) :
    Option Binary64 := do
  let (high, unread) := takeDigits 0 whole
  let (significand, ignored) := takeDigits high fraction
  let x ← Binary64.ofDecimal? false significand 0
  let y ← x.scale? (exponent + unread.length - (fraction.length - ignored.length : Nat))
  some { y with negative }

/-- The number written without sign. A fraction, an exponent, minus zero, and an integer that does
not fit 64 bits make it a binary fraction. -/
def Number.ofUnsigned? (negative : Bool) (cs : List Char) : Option Number :=
  let whole := cs.takeWhile Char.isDigit
  let rest := cs.dropWhile Char.isDigit
  let n := Text.digitsValue whole
  if rest = [] ∧ !negative ∧ n < 0x10000000000000000 then some (.int n)
  else if rest = [] ∧ negative ∧ 0 < n ∧ n ≤ 0x8000000000000000 then some (.int (-n))
  else
    let fraction :=
      match rest with
      | '.' :: ds => ds.takeWhile Char.isDigit
      | _ => []
    let tail :=
      match rest with
      | '.' :: ds => ds.dropWhile Char.isDigit
      | _ => rest
    (fractionValue negative whole fraction (exponentValue tail)).map .float

def Number.ofChars? : List Char → Option Number
  | '-' :: cs => Number.ofUnsigned? true cs
  | cs => Number.ofUnsigned? false cs

/-- A container that is still open. -/
inductive Frame
  /-- The items so far, the last one first. -/
  | array (items : List Json)
  /-- The fields so far, the last one first, and the key of the next one. -/
  | object (fields : List (String × Json)) (key : String)

/-- The state of the reader. -/
structure Reader where
  scan : Scan := .start
  /-- The characters of the token at hand, the last one first. -/
  token : List Char := []
  frames : List Frame := []
  result : Option Json := none

namespace Reader

/-- Hands a finished value to the innermost container. -/
def deliver (v : Json) (r : Reader) : Reader :=
  match r.frames with
  | [] => { r with result := some v }
  | .array items :: outer => { r with frames := .array (v :: items) :: outer }
  | .object fields key :: outer => { r with frames := .object ((key, v) :: fields) key :: outer }

/-- Opens a container, if there may be one more. -/
def push (f : Frame) (r : Reader) : Option Reader :=
  if r.frames.length < maxDepth then some { r with frames := f :: r.frames } else none

/-- Closes the innermost container; `gather` says how the fields of an object are kept. -/
def pop (gather : List (String × Json) → List (String × Json)) (r : Reader) : Reader :=
  match r.frames with
  | [] => r
  | .array items :: outer => deliver (.array items.reverse) { r with frames := outer }
  | .object fields _ :: outer => deliver (.object (gather fields.reverse)) { r with frames := outer }

def setKey (key : String) (r : Reader) : Reader :=
  match r.frames with
  | .object fields _ :: outer => { r with frames := .object fields key :: outer }
  | _ => r

def keep (c : Char) (r : Reader) : Reader := { r with token := c :: r.token }

/-- The end of a string: its text is a key or a value. -/
def closeText (isKey : Bool) (r : Reader) : Option Reader :=
  (Quoted.decode r.token.reverse).map fun cs =>
    let s := String.ofList cs
    if isKey then r.setKey s else r.deliver (.string s)

/-- The value of a word. -/
def wordValue : List Char → Json
  | 't' :: _ => .bool true
  | 'f' :: _ => .bool false
  | _ => .null

def closeNumber (r : Reader) : Option Reader :=
  (Number.ofChars? r.token.reverse).map fun n => r.deliver (.number n)

/-- A character between tokens. -/
def structural (gather : List (String × Json) → List (String × Json)) (c : Char) (r : Reader) :
    Option Reader :=
  match c with
  | '"' => some { r with token := [] }
  | '[' => r.push (.array [])
  | '\x7b' => r.push (.object [] "")
  | ']' | '\x7d' => some (r.pop gather)
  | c => if isSpace c || c = ',' || c = ':' then some r else some { r with token := [c] }

def step (gather : List (String × Json) → List (String × Json)) (r : Reader) (c : Char) :
    Option Reader := do
  let next ← r.scan.step c
  let moved := { r with scan := next }
  match r.scan.mode, next.mode with
  | .text _, .text _ => some (moved.keep c)
  | .text _, .escape _ => some (moved.keep c)
  | .text isKey, _ => moved.closeText isKey
  | .escape _, _ => some (moved.keep c)
  | .hex _ _, _ => some (moved.keep c)
  | .word _, .word _ => some (moved.keep c)
  | .word _, _ => some (moved.deliver (wordValue (moved.keep c).token.reverse))
  | .number _, .number _ => some (moved.keep c)
  | .number _, _ => do
    let ended ← moved.closeNumber
    ended.structural gather c
  | _, _ => moved.structural gather c

def run (gather : List (String × Json) → List (String × Json)) (r : Reader) (cs : List Char) :
    Option Reader := cs.foldlM (step gather) r

/-- The value that has been read, if the text may end here. -/
def finish (r : Reader) : Option Json :=
  if r.scan.isComplete then
    match r.scan.mode with
    | .number _ => r.closeNumber.bind fun ended => ended.result
    | _ => r.result
  else none

end Reader

/-- The number of bytes up to and including the first character that is refused. -/
def Reader.refusedAt? (r : Reader) (before : Nat) : List Char → Option Nat
  | [] => none
  | c :: cs =>
    match r.step id c with
    | some next => next.refusedAt? (before + c.utf8Size) cs
    | none => some (before + c.utf8Size)

/-- Reads a text whose objects keep their fields as `gather` says. -/
def readWith (gather : List (String × Json) → List (String × Json)) (s : String) : Option Json :=
  (Reader.run gather {} s.toList).bind Reader.finish

/-- Reads a text; fields are sorted by key, and of a repeated key the last value is kept. -/
def read? (s : String) : Option Json := readWith Dict.ofList s

end Telemetry.Json
