import Telemetry.Json.Scan
import Telemetry.Text.Utf8
import Telemetry.Window

/-!
# Line assembly

Bytes come in one by one and leave as lines. A line may hold at most `limit` bytes, carriage returns
left out. When a longer one comes in, its bytes are discarded up to the next opening brace, and
collecting starts again there: a frame may follow garbage that had no end of line. At the end of such
a line the garbage in front of the frame is cut off, at the first brace from which the rest is
one JSON value.
-/

namespace Telemetry.Relay

inductive Assembler.Mode
  | normal
  /-- In a line that is too long, looking for a brace. -/
  | discarding
  /-- Collecting after such a line; where the braces in the buffer are, counted from the brace that ended
  the garbage. The buffer begins at the first of them. -/
  | resync (starts : Window Nat)
  deriving DecidableEq, Repr

structure Assembler where
  limit : Nat
  buffer : Window UInt8 := {}
  mode : Assembler.Mode := .normal
  /-- How many lines were thrown away, for their length or their encoding. -/
  dropped : Nat := 0
  deriving DecidableEq, Repr

namespace Assembler

def newline : UInt8 := 10

def carriageReturn : UInt8 := 13

def brace : UInt8 := 123

def ofLimit (limit : Nat) : Assembler := { limit }

/-- While discarding: a newline ends the line, a brace starts collecting. -/
def skip (byte : UInt8) (a : Assembler) : Assembler :=
  if byte = newline then { a with mode := .normal }
  else if byte = brace then
    { a with buffer := .singleton byte, mode := .resync (.singleton 0) }
  else a

/-- Makes room after a resync by dropping all before the second brace. -/
def slide? (a : Assembler) : Option Assembler :=
  match a.mode with
  | .resync starts =>
    match starts.get? 0, starts.get? 1 with
    | some start, some next =>
      some { a with buffer := a.buffer.drop (next - start), mode := .resync (starts.drop 1) }
    | _, _ => none
  | _ => none

/-- Adds a byte to the buffer. -/
def collect (byte : UInt8) (a : Assembler) : Assembler :=
  let size := a.buffer.size
  { a with
    buffer := a.buffer.push byte
    mode :=
      match a.mode with
      | .resync starts =>
        let start := (starts.get? 0).getD 0
        .resync (if byte = brace then starts.push (start + size) else starts)
      | mode => mode }

/-- Gives the line up. -/
def overflow (a : Assembler) : Assembler :=
  { a with buffer := {}, mode := .discarding, dropped := a.dropped + 1 }

/-- The first suffix that is JSON, of those beginning at `starts`. The bytes begin at `start`. -/
def jsonSuffix? (start : Nat) (bytes : List UInt8) : List Nat → Option (List UInt8)
  | [] => none
  | next :: starts =>
    let suffix := bytes.drop (next - start)
    if Json.isJson suffix then some suffix else jsonSuffix? next suffix starts

/-- The line as it is handed out: after a resync it begins at the first brace from which the rest
is JSON. -/
def cutGarbage (mode : Mode) (bytes : List UInt8) : List UInt8 :=
  match mode with
  | .resync starts =>
    match starts.toList with
    | [] => bytes
    | start :: rest => (jsonSuffix? start bytes (start :: rest)).getD bytes
  | _ => bytes

def finishLine (a : Assembler) : Option String × Assembler :=
  let fresh := { a with buffer := {}, mode := .normal }
  if a.buffer.isEmpty then (none, fresh)
  else
    match Text.ofUtf8? (cutGarbage a.mode a.buffer.toList) with
    | some line => (some line, fresh)
    | none => (none, { fresh with dropped := a.dropped + 1 })

/-- Takes a byte in; a line comes out when it is complete. -/
def push (byte : UInt8) (a : Assembler) : Option String × Assembler :=
  if a.mode = .discarding then (none, a.skip byte)
  else if byte = carriageReturn then (none, a)
  else if byte = newline then a.finishLine
  else if a.buffer.size < a.limit then (none, a.collect byte)
  else
    match a.slide? with
    | some roomy => (none, roomy.collect byte)
    | none => (none, a.overflow)

/-- Takes in bytes, collecting the lines that end among them. -/
def feed : List UInt8 → Assembler → List String × Assembler
  | [], a => ([], a)
  | byte :: rest, a =>
    let r := a.push byte
    let s := feed rest r.2
    (r.1.toList ++ s.1, s.2)

theorem feed_append (x y : List UInt8) (a : Assembler) :
    a.feed (x ++ y) =
      ((a.feed x).1 ++ ((a.feed x).2.feed y).1, ((a.feed x).2.feed y).2) := by
  induction x generalizing a with
  | nil => simp [feed]
  | cons b rest ih => simp [feed, ih, List.append_assoc]

end Assembler
end Telemetry.Relay
