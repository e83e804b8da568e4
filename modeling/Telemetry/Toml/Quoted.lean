import Telemetry.Toml.Scanner

/-!
# TOML strings

Four forms: in double quotes with escapes, in single quotes as they stand, and both of these over
several lines between triple quotes. Of a triple-quoted string a line feed right after the opening is
dropped, and lines end in a bare line feed. A `bound` is more than the number of characters left.
-/

namespace Telemetry.Toml.Scanner

/-- A character that stands for itself between double quotes. -/
def isPlain (c : Char) : Bool := isVisible c && c != '"' && c != '\\'

/-- A character given by its number in `n` hexadecimal digits. -/
def charOfHex (n : Nat) : Scanner Char := do
  let value := digitsIn 16 (← exactly n isHexDigit)
  if value.isValidChar then return Char.ofNat value else refuse

/-- What follows the backslash of an escape. -/
def escape : Scanner Char := do
  match ← one fun _ => true with
  | 'b' => return '\x08'
  | 't' => return '\t'
  | 'n' => return '\n'
  | 'f' => return '\x0c'
  | 'r' => return '\r'
  | '"' => return '"'
  | '\\' => return '\\'
  | 'u' => charOfHex 4
  | 'U' => charOfHex 8
  | _ => refuse

/-- The rest of a string in double quotes, at most `fuel` characters of it. -/
def basicTail : Nat → Scanner (List Char)
  | 0 => refuse
  | fuel + 1 => do
    match ← one fun _ => true with
    | '"' => return []
    | '\\' => return (← escape) :: (← basicTail fuel)
    | c => if isPlain c then return c :: (← basicTail fuel) else refuse

/-- A string in double quotes. -/
def basic (bound : Nat) : Scanner (List Char) := do
  expect '"'
  basicTail bound

/-- A string in single quotes. -/
def literal : Scanner (List Char) := do
  expect '\''
  let cs ← span fun c => isVisible c && c != '\''
  expect '\''
  return cs

/-- A run of the quote inside a triple-quoted string. Three quotes close the string, and up to two more
in front of them belong to it; fewer than three belong to it too. -/
def quoteRun (quote : Char) : Scanner (List Char × Bool) := do
  let n := (← span (· == quote)).length
  if n < 3 then return (List.replicate n quote, false)
  else if n < 6 then return (List.replicate (n - 3) quote, true)
  else refuse

/-- Is there nothing but blanks up to the end of the line? -/
def endsLine (cs : List Char) : Bool :=
  match cs.dropWhile isBlank with
  | '\n' :: _ | '\r' :: '\n' :: _ => true
  | _ => false

/-- What follows blanks and ends of lines. -/
def afterEmptyLines : List Char → List Char
  | [] => []
  | '\r' :: '\n' :: cs => afterEmptyLines cs
  | c :: cs => if isBlank c || c == '\n' then afterEmptyLines cs else c :: cs

/-- The rest of a triple-quoted string. A backslash at the end of a line, where escapes are known, drops
all blanks and ends of lines after it. -/
def tripleTail (quote : Char) (escapes : Bool) : Nat → Scanner (List Char)
  | 0 => refuse
  | fuel + 1 => do
    match ← peek? with
    | none => refuse
    | some '\n' | some '\r' =>
      newline
      return '\n' :: (← tripleTail quote escapes fuel)
    | some c =>
      if c == quote then
        let (inside, closed) ← quoteRun quote
        if closed then return inside else return inside ++ (← tripleTail quote escapes fuel)
      else if escapes && c == '\\' then
        expect '\\'
        if endsLine (← rest) then
          modify afterEmptyLines
          tripleTail quote escapes fuel
        else
          let e ← escape
          return e :: (← tripleTail quote escapes fuel)
      else
        let c ← one isVisible
        return c :: (← tripleTail quote escapes fuel)

/-- A triple-quoted string after its opening quotes. -/
def tripleBody (quote : Char) (escapes : Bool) (bound : Nat) : Scanner (List Char) := do
  let _ ← attempt newline
  tripleTail quote escapes bound

/-- A string in any of the four forms. -/
def string (bound : Nat) : Scanner String := do
  if ← optional ['"', '"', '"'] then return String.ofList (← tripleBody '"' true bound)
  else if ← optional ['\'', '\'', '\''] then return String.ofList (← tripleBody '\'' false bound)
  else
    match ← peek? with
    | some '"' => return String.ofList (← basic bound)
    | _ => return String.ofList (← literal)

end Telemetry.Toml.Scanner
