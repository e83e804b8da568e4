import Telemetry.Text.Decimal

/-!
# Scanning TOML

A scanner consumes the characters at the front of a text, or refuses. Here are the scanners for single
characters, blanks, comments, ends of lines and runs of digits.
-/

namespace Telemetry.Toml

abbrev Scanner := StateT (List Char) Option

namespace Scanner

def refuse {α : Type} : Scanner α := fun _ => none

def rest : Scanner (List Char) := get

def peek? : Scanner (Option Char) := return (← get).head?

/-- One character that passes the test. -/
def one (test : Char → Bool) : Scanner Char := fun cs =>
  match cs with
  | [] => none
  | c :: cs => if test c then some (c, cs) else none

def expect (c : Char) : Scanner Unit := do let _ ← one (· == c)

/-- The longest run of characters that pass the test. -/
def span (test : Char → Bool) : Scanner (List Char) := fun cs =>
  some (cs.takeWhile test, cs.dropWhile test)

/-- Consumes `text` if it stands here; tells whether it did. -/
def optional (text : List Char) : Scanner Bool := fun cs =>
  if text.isPrefixOf cs then some (true, cs.drop text.length) else some (false, cs)

/-- What `scanner` reads, or nothing if it refuses. -/
def attempt {α : Type} (scanner : Scanner α) : Scanner (Option α) := fun cs =>
  match scanner cs with
  | some (a, cs) => some (some a, cs)
  | none => some (none, cs)

/-! ## Blanks and lines -/

def isBlank (c : Char) : Bool := c == ' ' || c == '\t'

/-- A character that may stand in a comment or a literal string: no control character but the tab. -/
def isVisible (c : Char) : Bool := c == '\t' || (0x20 ≤ c.toNat && c.toNat != 0x7F)

def blanks : Scanner Unit := do let _ ← span isBlank

def comment : Scanner Unit := do
  if (← peek?) == some '#' then let _ ← span isVisible

/-- The end of a line: a line feed, with or without a carriage return in front. -/
def newline : Scanner Unit := do
  let _ ← optional ['\r']
  expect '\n'

/-- The rest of a line after its content. -/
def lineEnd : Scanner Unit := do
  blanks
  comment
  match ← peek? with
  | none => return ()
  | some _ => newline

/-- What follows blanks, comments and ends of lines. A comment has an end of line. -/
def afterGaps (inComment : Bool) : List Char → Option (List Char)
  | [] => if inComment then none else some []
  | '\n' :: cs | '\r' :: '\n' :: cs => afterGaps false cs
  | '\r' :: _ => none
  | c :: cs =>
    if inComment then if isVisible c then afterGaps true cs else none
    else if isBlank c then afterGaps false cs
    else if c = '#' then afterGaps true cs
    else some (c :: cs)

/-- Blanks, comments and ends of lines. -/
def gaps : Scanner Unit := fun cs => (afterGaps false cs).map fun cs => ((), cs)

/-! ## Digits -/

/-- Drops the single underscores between digits. -/
def joinDigits (isDigit : Char → Bool) : List Char → Option (List Char)
  | [] => some []
  | [c] => if isDigit c then some [c] else none
  | c :: '_' :: d :: rest =>
    if isDigit c && isDigit d then (joinDigits isDigit (d :: rest)).map (c :: ·) else none
  | c :: d :: rest =>
    if isDigit c then (joinDigits isDigit (d :: rest)).map (c :: ·) else none

/-- A run of digits, single underscores between them. -/
def digits (isDigit : Char → Bool) : Scanner (List Char) := do
  let cs ← span fun c => isDigit c || c == '_'
  match joinDigits isDigit cs with
  | some (d :: ds) => return d :: ds
  | _ => refuse

/-- The value of digits in a base; each digit has the value that `Nat.digitChar` gives it, in either
case. -/
def digitsIn (base : Nat) (cs : List Char) : Nat :=
  let value (c : Char) : Nat :=
    if c.isDigit then Text.digitValue c else c.toLower.toNat - 'a'.toNat + 10
  Text.valueIn base (cs.map value)

def isHexDigit (c : Char) : Bool :=
  c.isDigit || ('a' ≤ c.toLower && c.toLower ≤ 'f')

/-- Exactly `n` characters that pass the test. -/
def exactly (n : Nat) (test : Char → Bool) : Scanner (List Char) := fun cs =>
  let taken := cs.take n
  if taken.length = n && taken.all test then some (taken, cs.drop n) else none

end Scanner
end Telemetry.Toml
