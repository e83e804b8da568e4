import Telemetry.Decimal.Binary64
import Telemetry.Toml.Basic
import Telemetry.Toml.Scanner

/-!
# TOML numbers

Integers of 64 bits, in base ten with a sign or in base 16, 8 or 2 without one; and floats, of which
only those are refused that are too large.
-/

namespace Telemetry.Toml.Scanner

def integer? (n : Int) : Scanner Toml :=
  if -0x8000000000000000 ≤ n ∧ n < 0x8000000000000000 then return .integer n else refuse

/-- An integer in a base other than ten, after its mark. -/
def based (base : Nat) (isDigit : Char → Bool) : Scanner Toml := do
  integer? (digitsIn base (← digits isDigit))

def sign : Scanner (List Char) := do
  match ← peek? with
  | some '+' => expect '+'; return ['+']
  | some '-' => expect '-'; return ['-']
  | _ => return []

/-- The digits of a decimal integer, without a zero in front of others. -/
def wholeDigits : Scanner (List Char) := do
  match ← digits Char.isDigit with
  | '0' :: _ :: _ => refuse
  | cs => return cs

/-- The exponent of a float, with its mark. -/
def exponent : Scanner (List Char) := do
  let _ ← one fun c => c == 'e' || c == 'E'
  return 'e' :: (← sign) ++ (← digits Char.isDigit)

def fraction : Scanner (List Char) := do
  expect '.'
  digits Char.isDigit

/-- The value of an exponent, from its text. -/
def exponentValue : List Char → Int
  | _ :: '-' :: ds => -(Text.digitsValue ds : Int)
  | _ :: '+' :: ds => Text.digitsValue ds
  | _ :: ds => Text.digitsValue ds
  | [] => 0

/-- A number in base ten: an integer, unless a fraction or an exponent follows. -/
def decimal : Scanner Toml := do
  let s ← sign
  let whole ← wholeDigits
  let frac ← match ← peek? with
    | some '.' => some <$> fraction
    | _ => pure none
  let exp ← match ← peek? with
    | some 'e' | some 'E' => exponent
    | _ => pure []
  match frac, exp with
  | none, [] =>
    let n := Text.digitsValue whole
    integer? (if s = ['-'] then -n else n)
  | frac, exp =>
    let places := frac.getD []
    let negative := s = ['-']
    let value := Binary64.ofDecimal? negative (Text.digitsValue (whole ++ places))
      (exponentValue exp - places.length)
    if value.isNone && !negative then refuse
    let point := match frac with | some ds => '.' :: ds | none => []
    return .float (String.ofList (s ++ whole ++ point ++ exp))

/-- A float that is no number or not finite. -/
def special : Scanner Toml := do
  let s ← sign
  if ← optional ['i', 'n', 'f'] then return .float (String.ofList (s ++ ['i', 'n', 'f']))
  else if ← optional ['n', 'a', 'n'] then return .float (String.ofList (s ++ ['n', 'a', 'n']))
  else refuse

def number : Scanner Toml := do
  if ← optional ['0', 'x'] then based 16 isHexDigit
  else if ← optional ['0', 'o'] then based 8 fun c => '0' ≤ c && c ≤ '7'
  else if ← optional ['0', 'b'] then based 2 fun c => c == '0' || c == '1'
  else
    match ← attempt decimal with
    | some n => return n
    | none => special

end Telemetry.Toml.Scanner
