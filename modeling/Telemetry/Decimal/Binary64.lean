/-!
# Binary floating-point numbers in decimal

A finite binary64 number is a sign, a significand of at most 53 bits and a power of two. `ofDecimal?`
rounds a decimal to the nearest such number, a tie going to the even significand. `scale?` multiplies
by a power of ten in machine arithmetic, which rounds the power and each product or quotient, so it
can miss the nearest number. `shortest` gives the fewest decimal digits that round back to the number.
-/

namespace Telemetry

/-- The number `± significand * 2 ^ exponent`, with the exponent as small as possible. -/
structure Binary64 where
  negative : Bool
  significand : Nat
  exponent : Int
  deriving DecidableEq, Repr

namespace Binary64

/-- The exponent of the smallest positive number. -/
def minExponent : Int := -1074

/-- The exponent of the largest number. -/
def maxExponent : Int := 971

def zero (negative : Bool) : Binary64 := ⟨negative, 0, minExponent⟩

/-- `num / den`, a tie going to the even neighbour. -/
def roundDiv (num den : Nat) : Nat :=
  let q := num / den
  let r := num % den
  if 2 * r < den then q else if den < 2 * r then q + 1 else q + q % 2

def powerOfTwo (k : Nat) : Nat := Nat.pow 2 k

def powerOfTen (k : Nat) : Nat := Nat.pow 10 k

/-- Is `num / den` below `2 ^ k`? -/
def belowPowerOfTwo (num den : Nat) (k : Int) : Bool :=
  num * powerOfTwo (-k).toNat < den * powerOfTwo k.toNat

/-- The number nearest to the positive quotient `num / den`, unless it is too large. -/
def ofRatio? (negative : Bool) (num den : Nat) : Option Binary64 :=
  let guess : Int := (Nat.log2 num : Int) - Nat.log2 den
  let top := if belowPowerOfTwo num den guess then guess - 1 else guess
  let e := max (top - 52) minExponent
  let q := roundDiv (num * powerOfTwo (-e).toNat) (den * powerOfTwo e.toNat)
  let x : Binary64 :=
    if q = powerOfTwo 53 then ⟨negative, powerOfTwo 52, e + 1⟩ else ⟨negative, q, e⟩
  if maxExponent < x.exponent then none else some x

/-- The number of decimal digits. A power of ten that cannot be too large is divided out first. -/
def countDigits (n : Nat) : Nat :=
  let lower := n.log2 * 3 / 10
  lower + (Nat.toDigits 10 (n / powerOfTen lower)).length

/-- The number nearest to `± digits * 10 ^ power`, unless it is too large. -/
def ofDecimal? (negative : Bool) (digits : Nat) (power : Int) : Option Binary64 :=
  if digits = 0 then some (zero negative)
  else
    let bits := Nat.log2 digits
    if 400 < (bits / 4 : Nat) + power then none
    else if (bits / 3 + 2 : Nat) + power < -400 then some (zero negative)
    else ofRatio? negative (digits * powerOfTen power.toNat) (powerOfTen (-power).toNat)

/-- The number nearest to the product, unless it is too large. -/
def mul? (x y : Binary64) : Option Binary64 :=
  let negative := x.negative != y.negative
  let s := x.significand * y.significand
  let e := x.exponent + y.exponent
  if s = 0 then some (zero negative)
  else ofRatio? negative (s * powerOfTwo e.toNat) (powerOfTwo (-e).toNat)

/-- The number nearest to the quotient by a number that is not zero, unless it is too large. -/
def div? (x y : Binary64) : Option Binary64 :=
  let negative := x.negative != y.negative
  let e := x.exponent - y.exponent
  if x.significand = 0 then some (zero negative)
  else
    ofRatio? negative (x.significand * powerOfTwo e.toNat) (y.significand * powerOfTwo (-e).toNat)

/-- The largest power of ten below the largest number. -/
def maxPower : Nat := 308

/-- Divides so many times by the largest power of ten, or until nothing is left. -/
def shrink? (x : Binary64) : Nat → Option Binary64
  | 0 => some x
  | times + 1 =>
    if x.significand = 0 then some x
    else do
      let y ← x.div? (← ofDecimal? false 1 maxPower)
      y.shrink? times

/-- The number times `10 ^ power`. A power of ten too large for a number multiplies nothing but
zero, and a quotient by one is taken in several steps. -/
def scale? (x : Binary64) (power : Int) : Option Binary64 :=
  if x.significand = 0 then some x
  else if maxPower < power then none
  else if 0 ≤ power then do x.mul? (← ofDecimal? false 1 power)
  else do
    let times := ((-power).toNat - 1) / maxPower
    let y ← x.shrink? times
    y.div? (← ofDecimal? false 1 (-power - times * maxPower))

/-- The power of ten at or below the positive quotient `num / den`. -/
def decimalExponent (num den : Nat) : Int :=
  if den ≤ num then (countDigits (num / den) : Int) - 1
  else
    let c := (den + num - 1) / num
    let n := countDigits c
    if c = powerOfTen (n - 1) then -((n : Int) - 1) else -(n : Int)

/-- The decimals `d * 10 ^ power` that round to a number are those strictly between two bounds, and
the bounds themselves if its significand is even. The bounds and the number are given here as
numerators over a common denominator. -/
structure Neighbourhood where
  low : Nat
  value : Nat
  high : Nat
  denominator : Nat
  closed : Bool

def neighbourhood (x : Binary64) : Neighbourhood :=
  let spacing := powerOfTwo x.exponent.toNat
  let value := 4 * x.significand * spacing
  let below :=
    if x.significand = powerOfTwo 52 ∧ minExponent < x.exponent then spacing else 2 * spacing
  { low := value - below
    value
    high := value + 2 * spacing
    denominator := 4 * powerOfTwo (-x.exponent).toNat
    closed := x.significand % 2 = 0 }

/-- Does `d` times the unit round to the number, and how far is it from it? The unit and the bounds
are numerators over the same denominator. -/
def distance? (n : Neighbourhood) (unit scale d : Nat) : Option (Nat × Nat) :=
  let t := d * unit
  let inside :=
    if n.closed then n.low * scale ≤ t && t ≤ n.high * scale
    else n.low * scale < t && t < n.high * scale
  if d ≠ 0 ∧ inside then some ((t - n.value * scale) + (n.value * scale - t), d) else none

/-- The multiple of `10 ^ power` that rounds to the number and is nearest to it; of two equally
near ones the even. -/
def onGrid? (n : Neighbourhood) (power : Int) : Option Nat :=
  let unit := n.denominator * powerOfTen power.toNat
  let scale := powerOfTen (-power).toNat
  let d := n.value * scale / unit
  match distance? n unit scale d, distance? n unit scale (d + 1) with
  | none, none => none
  | some (_, a), none => some a
  | none, some (_, b) => some b
  | some (da, a), some (db, b) =>
    if da < db then some a else if db < da then some b else some (a + a % 2)

/-- The fewest digits, as an integer, and the power of ten by which they are multiplied. -/
def shortest (x : Binary64) : Nat × Int :=
  let n := x.neighbourhood
  let top := decimalExponent n.value n.denominator
  let found := (List.range 17).findSome? fun (i : Nat) =>
    (onGrid? n (top - i)).map fun d => (d, top - (i : Int))
  found.getD (x.significand, 0)

/-- Digits without the zeros at the end, and the power of ten that makes up for them. -/
def dropZeros (digits : List Char) (power : Int) : List Char × Int :=
  let kept := (digits.reverse.dropWhile (· == '0')).reverse
  (kept, power + (digits.length - kept.length : Nat))

/-- How a number is laid out: the exponents that are written positionally. -/
structure Layout where
  least : Int
  bound : Int

/-- The number in positional form, with at least one digit after the point. -/
def positional (digits : List Char) (power : Int) : List Char :=
  if 0 ≤ power then digits ++ List.replicate power.toNat '0' ++ ['.', '0']
  else
    let places := (-power).toNat
    if places < digits.length then
      digits.take (digits.length - places) ++ '.' :: digits.drop (digits.length - places)
    else '0' :: '.' :: List.replicate (places - digits.length) '0' ++ digits

def scientific (digits : List Char) (e : Int) : List Char :=
  let mantissa :=
    match digits with
    | [] => []
    | [d] => [d]
    | d :: rest => d :: '.' :: rest
  mantissa ++ 'e' :: (if e < 0 then '-' else '+') :: Nat.toDigits 10 e.natAbs

/-- The shortest text: positional for exponents from `least` up to `bound`, else scientific. -/
def chars (layout : Layout) (x : Binary64) : List Char :=
  let body :=
    if x.significand = 0 then ['0', '.', '0']
    else
      let (d, power) := x.shortest
      let (digits, power) := dropZeros (Nat.toDigits 10 d) power
      let e := (digits.length : Int) - 1 + power
      if layout.least ≤ e ∧ e < layout.bound then positional digits power else scientific digits e
  if x.negative then '-' :: body else body

end Binary64
end Telemetry
