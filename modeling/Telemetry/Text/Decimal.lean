/-!
# Numbers in text

Reading runs of digits as natural numbers. A long run is not read digit by digit but by pairs of digits,
pairs of pairs and so on, which gives the same value (`valueIn_eq_foldl`).
-/

namespace Telemetry.Text

/-! ## Digits in a base -/

/-- Of digits, the last one first, each pair as one digit in the square of the base. -/
def pairUp (base : Nat) : List Nat → List Nat
  | a :: b :: rest => (a + base * b) :: pairUp base rest
  | ds => ds

/-- The value of digits, the last one first, after so many rounds of pairing. -/
def valueOfReversed (base : Nat) : Nat → List Nat → Nat
  | 0, ds => ds.foldr (fun d n => d + base * n) 0
  | rounds + 1, ds => valueOfReversed (base * base) rounds (pairUp base ds)

/-- The value of digits in a base. -/
def valueIn (base : Nat) (ds : List Nat) : Nat :=
  valueOfReversed base (Nat.log2 ds.length) ds.reverse

theorem foldr_pairUp (base : Nat) (ds : List Nat) :
    (pairUp base ds).foldr (fun d n => d + base * base * n) 0 =
      ds.foldr (fun d n => d + base * n) 0 := by
  fun_induction pairUp base ds with
  | case1 a b rest ih =>
    rw [List.foldr_cons, List.foldr_cons, List.foldr_cons, ih, Nat.mul_add, Nat.mul_assoc,
      Nat.add_assoc]
  | case2 ds h =>
    match ds, h with
    | [], _ => rfl
    | [d], _ => simp
    | a :: b :: rest, h => exact absurd rfl (h a b rest)

theorem valueOfReversed_eq (base rounds : Nat) (ds : List Nat) :
    valueOfReversed base rounds ds = ds.foldr (fun d n => d + base * n) 0 := by
  induction rounds generalizing base ds with
  | zero => rfl
  | succ rounds ih => rw [valueOfReversed, ih, foldr_pairUp]

theorem valueIn_eq_foldl (base : Nat) (ds : List Nat) :
    valueIn base ds = ds.foldl (fun n d => d + base * n) 0 := by
  rw [valueIn, valueOfReversed_eq, List.foldr_reverse]

/-! ## Decimal numbers -/

def digitValue (c : Char) : Nat := c.toNat - '0'.toNat

/-- The value of a run of digits, read from the left. -/
def digitsValue (cs : List Char) : Nat := valueIn 10 (cs.map digitValue)

/-- The number written by a non-empty run of digits. -/
def decimal? (cs : List Char) : Option Nat :=
  if cs.isEmpty || !cs.all Char.isDigit then none else some (digitsValue cs)

/-- As `decimal?`, with an optional plus sign in front. -/
def signedDecimal? : List Char → Option Nat
  | '+' :: cs => decimal? cs
  | cs => decimal? cs

/-- A port number: not zero, and at most 65535. -/
def port? (n : Nat) : Option UInt16 :=
  if n = 0 || 65535 < n then none else some (UInt16.ofNat n)

end Telemetry.Text
