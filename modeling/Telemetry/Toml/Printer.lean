/-!
# Printing TOML strings

A string is written in the plainest form that holds it without escapes: in double quotes, in single
quotes, or in either of them threefold; if there is none, in double quotes with escapes.
-/

namespace Telemetry.Toml.Printer

/-- Is this a control character that only an escape can write? -/
def isControl (c : Char) : Bool :=
  c != '\t' && c != '\n' && (c.toNat < 0x20 || c.toNat == 0x7F)

/-- The length of the longest run of `c`. -/
def longestRun (c : Char) (cs : List Char) : Nat :=
  (cs.foldl (fun (r : Nat × Nat) x =>
    if x = c then (r.1 + 1, max r.2 (r.1 + 1)) else (0, r.2)) (0, 0)).2

def fourHexDigits (n : Nat) : List Char :=
  [12, 8, 4, 0].map fun shift => (Nat.digitChar ((n >>> shift) % 16)).toUpper

def escape (c : Char) : List Char :=
  match c with
  | '\x08' => ['\\', 'b']
  | '\t' => ['\\', 't']
  | '\n' => ['\\', 'n']
  | '\x0c' => ['\\', 'f']
  | '\r' => ['\\', 'r']
  | '"' => ['\\', '"']
  | '\\' => ['\\', '\\']
  | c => if c.toNat < 0x20 || c.toNat = 0x7F then '\\' :: 'u' :: fourHexDigits c.toNat else [c]

/-- The content between double quotes, with escapes. On several lines, line feeds stay, and so do quotes
unless two stand before them; `run` counts those. -/
def escaped (multiline : Bool) (run : Nat) : List Char → List Char
  | [] => []
  | c :: cs =>
    if multiline && c = '\n' then c :: escaped multiline 0 cs
    else if multiline && c = '"' && run < 2 then c :: escaped multiline (run + 1) cs
    else escape c ++ escaped multiline 0 cs

/-- The content between threefold quotes, after a line feed if it has lines of its own. -/
def threefold (quote : Char) (lines : Bool) (body : List Char) : List Char :=
  let quotes := List.replicate 3 quote
  quotes ++ (if lines then ['\n'] else []) ++ body ++ quotes

/-- A tab is written as an escape between double quotes. -/
def plain (cs : List Char) : List Char := cs.flatMap fun c => if c = '\t' then ['\\', 't'] else [c]

def chars (cs : List Char) : List Char :=
  let control := cs.any isControl
  let backslash := cs.contains '\\'
  let lines := cs.contains '\n'
  let doubles := longestRun '"' cs
  let singles := longestRun '\'' cs
  if !control && !backslash && doubles = 0 && !lines then '"' :: plain cs ++ ['"']
  else if !control && singles = 0 && !lines then '\'' :: cs ++ ['\'']
  else if !control && !backslash && doubles ≤ 2 then threefold '"' lines (plain cs)
  else if !control && singles ≤ 2 then threefold '\'' lines cs
  else if lines then threefold '"' lines (escaped true 0 cs)
  else '"' :: escaped false 0 cs ++ ['"']

def string (s : String) : String := String.ofList (chars s.toList)

end Telemetry.Toml.Printer
