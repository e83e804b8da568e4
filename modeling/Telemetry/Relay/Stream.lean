import Telemetry.Text.Utf8
import Telemetry.Transport

/-!
# A wire over a byte stream

A stream takes bytes in its own pieces: a write may accept only the first of them, or be interrupted
and has to be repeated. Here the answers of the stream are laid down in advance by a script; when
the script is at its end, everything is accepted and nothing more arrives. A line is written whole or
an error is reported.
-/

namespace Telemetry.Relay

open Transport

/-- Why a call on a stream fails. -/
inductive Stream.FaultKind
  | wouldBlock
  | timedOut
  | interrupted
  | brokenPipe
  | other
  deriving DecidableEq, Repr

structure Stream.Fault where
  kind : Stream.FaultKind
  reason : String
  deriving DecidableEq, Repr

/-- The answer to one write. -/
inductive Stream.WriteAnswer
  /-- At most so many bytes are accepted. -/
  | accept (count : Nat)
  | fail (fault : Stream.Fault)
  deriving DecidableEq, Repr

/-- The answer to one read. -/
inductive Stream.ReadAnswer
  | bytes (data : List UInt8)
  | fail (fault : Stream.Fault)
  deriving DecidableEq, Repr

structure Stream where
  reads : List Stream.ReadAnswer := []
  writes : List Stream.WriteAnswer := []
  /-- What the flushes to come fail with, if they fail. -/
  flushFaults : List (Option Stream.Fault) := []
  /-- All bytes that were accepted. -/
  written : List UInt8 := []
  /-- How many bytes had been accepted at each flush. -/
  flushedAt : List Nat := []
  deriving DecidableEq, Repr

namespace Stream

def flushes (s : Stream) : Nat := s.flushedAt.length

/-- The error of a write that accepts nothing. -/
def stalled : Error := .io "failed to write whole buffer"

/-- Writes until all bytes are accepted: what was accepted, what is left of the script, and the
error that ended it. -/
def pour : List WriteAnswer → List UInt8 → List UInt8 × List WriteAnswer × Option Error
  | script, [] => ([], script, none)
  | [], bytes => (bytes, [], none)
  | .accept 0 :: script, _ => ([], script, some stalled)
  | .accept (n + 1) :: script, bytes =>
    let r := pour script (bytes.drop (n + 1))
    (bytes.take (n + 1) ++ r.1, r.2)
  | .fail fault :: script, bytes =>
    if fault.kind = .interrupted then pour script bytes
    else ([], script, some (.io fault.reason))

/-- Writes all bytes or reports the error. -/
def writeAll (bytes : List UInt8) (s : Stream) : Except Error Unit × Stream :=
  let (accepted, script, error) := pour s.writes bytes
  (match error with | some e => .error e | none => .ok (),
    { s with writes := script, written := s.written ++ accepted })

/-- The error of the next flush. -/
def flushError? (s : Stream) : Option Error := s.flushFaults.head?.join.map fun fault => .io fault.reason

def flush (s : Stream) : Except Error Unit × Stream :=
  (match s.flushError? with | some e => .error e | none => .ok (),
    { s with flushFaults := s.flushFaults.tail, flushedAt := s.flushedAt ++ [s.written.length] })

def terminator : List UInt8 := [10]

/-- Writes the line, then its terminator, and flushes if nothing failed. -/
def writeLine (line : String) (s : Stream) : Except Error Unit × Stream :=
  match s.writeAll (Text.utf8 line) with
  | (.error e, s) => (.error e, s)
  | (.ok (), s) =>
    match s.writeAll terminator with
    | (.error e, s) => (.error e, s)
    | (.ok (), s) => s.flush

/-- Does a read that fails so only mean that nothing has arrived yet? -/
def FaultKind.isQuiet : FaultKind → Bool
  | wouldBlock | timedOut | interrupted => true
  | brokenPipe | other => false

/-- One read. What does not fit into `limit` bytes is left for the next one. -/
def read (limit : Nat) (s : Stream) : Except Error (List UInt8) × Stream :=
  match s.reads with
  | [] => (.ok [], s)
  | .bytes data :: rest =>
    let left := data.drop limit
    (.ok (data.take limit),
      { s with reads := if left.isEmpty then rest else .bytes left :: rest })
  | .fail fault :: rest =>
    (if fault.kind.isQuiet then .ok [] else .error (.io fault.reason), { s with reads := rest })

instance : Wire Stream where
  writeLine := writeLine
  read := read

end Stream
end Telemetry.Relay
