import Telemetry.Failure

/-!
# The outbox

Messages that could not be sent yet, oldest first. A full outbox refuses new entries. A drain tries
at most three entries from the front; a failed entry goes to the back, and is dropped on its third
failure.
-/

namespace Telemetry

/-- A message waiting to be sent. -/
structure Outbox.Entry where
  /-- The sender's name for it, used in reports. -/
  id : UInt32
  topic : String
  payload : List UInt8
  /-- How often sending has failed. -/
  retries : Nat := 0
  deriving DecidableEq, Repr

/-- What became of an entry in a drain. -/
inductive Outbox.Outcome
  | delivered (id : UInt32)
  | requeued (id : UInt32) (retries : Nat)
  | dropped (id : UInt32)
  deriving DecidableEq, Repr

structure Outbox where
  entries : List Outbox.Entry := []
  deriving DecidableEq, Repr

namespace Outbox

def capacity : Nat := 10

/-- An entry is dropped when sending has failed this often. -/
def maxRetries : Nat := 3

/-- A drain tries at most this many entries. -/
def drainBudget : Nat := 3

def empty : Outbox := {}

def size (q : Outbox) : Nat := q.entries.length

def isEmpty (q : Outbox) : Bool := q.entries.isEmpty

def isFull (q : Outbox) : Bool := capacity ≤ q.size

def push (e : Entry) (q : Outbox) : Except Failure Outbox :=
  if q.isFull then .error (.queueExhausted capacity) else .ok ⟨q.entries ++ [e]⟩

/-- The entries that the next drain tries, in order. -/
def due (q : Outbox) : List Entry := q.entries.take drainBudget

/-- What becomes of entries that were tried with these answers, and which of them stay. An entry
without an answer counts as sent. -/
def settle : List Entry → List Bool → List Outcome × List Entry
  | [], _ => ([], [])
  | e :: rest, answers =>
    let r := settle rest answers.tail
    if answers.headD true then (.delivered e.id :: r.1, r.2)
    else if maxRetries ≤ e.retries + 1 then (.dropped e.id :: r.1, r.2)
    else
      (.requeued e.id (e.retries + 1) :: r.1, { e with retries := e.retries + 1 } :: r.2)

/-- A drain whose attempts were answered as given. -/
def drain (answers : List Bool) (q : Outbox) : List Outcome × Outbox :=
  let r := settle q.due answers
  (r.1, ⟨q.entries.drop drainBudget ++ r.2⟩)

theorem entries_push {e : Entry} {q q' : Outbox} (h : q.push e = .ok q') :
    q'.entries = q.entries ++ [e] := by
  unfold push at h
  split at h
  · cases h
  · cases h; rfl

theorem push_eq_error_iff {e : Entry} {q : Outbox} :
    q.push e = .error (.queueExhausted capacity) ↔ capacity ≤ q.size := by
  unfold push isFull
  split <;> simp_all

end Outbox
end Telemetry
