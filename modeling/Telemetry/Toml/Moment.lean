import Telemetry.Toml.Scanner

/-!
# TOML dates and times

A date, a time of day, or a date with a time and perhaps an offset. Days are checked against the
calendar.
-/

namespace Telemetry.Toml.Scanner

/-- A number of exactly `count` digits, between `low` and `high`. -/
def fixed (count low high : Nat) : Scanner Nat := do
  let n := Text.digitsValue (← exactly count Char.isDigit)
  if low ≤ n ∧ n ≤ high then return n else refuse

def isLeapYear (year : Nat) : Bool := year % 4 == 0 && (year % 100 != 0 || year % 400 == 0)

def daysOfMonth (year month : Nat) : Nat :=
  if month = 2 then (if isLeapYear year then 29 else 28)
  else if month ∈ [4, 6, 9, 11] then 30
  else 31

def date : Scanner Unit := do
  let year ← fixed 4 0 9999
  expect '-'
  let month ← fixed 2 1 12
  expect '-'
  let _ ← fixed 2 1 (daysOfMonth year month)

def time : Scanner Unit := do
  let _ ← fixed 2 0 23
  expect ':'
  let _ ← fixed 2 0 59
  expect ':'
  let _ ← fixed 2 0 60
  if ← optional ['.'] then
    let _ ← one Char.isDigit
    let _ ← span Char.isDigit

/-- The distance from universal time. -/
def offset : Scanner Unit := do
  match ← one fun c => c ∈ ['Z', 'z', '+', '-'] with
  | '+' | '-' =>
    let _ ← fixed 2 0 23
    expect ':'
    let _ ← fixed 2 0 59
  | _ => return ()

/-- A time after a date. -/
def timeOfDate : Scanner Unit := do
  let _ ← one fun c => c ∈ ['T', 't', ' ']
  time
  let _ ← attempt offset

def moment : Scanner Unit := do
  match ← attempt date with
  | some () => let _ ← attempt timeOfDate
  | none => time

end Telemetry.Toml.Scanner
