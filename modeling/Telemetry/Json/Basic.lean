import Telemetry.Decimal.Binary64
import Telemetry.Dict

/-!
# JSON values

Numbers are integers, or binary fractions where the text is not an integer of at most 64 bits.
Fields of an object are kept as a list; reading leaves them sorted by key.
-/

namespace Telemetry

/-- A number in a JSON text. -/
inductive Json.Number
  | int (value : Int)
  | float (value : Binary64)
  deriving DecidableEq, Repr

inductive Json
  | null
  | bool (value : Bool)
  | number (value : Json.Number)
  | string (value : String)
  | array (items : List Json)
  | object (fields : List (String × Json))
  deriving Repr, Inhabited

namespace Json

/-- The integers that are kept exactly: from the least signed to the greatest unsigned 64-bit one. -/
def Number.IsExact (n : Int) : Prop := -0x8000000000000000 ≤ n ∧ n < 0x10000000000000000

instance (n : Int) : Decidable (Number.IsExact n) := inferInstanceAs (Decidable (_ ∧ _))

def ofNat (n : Nat) : Json := .number (.int n)

def int? : Json → Option Int
  | .number (.int n) => some n
  | _ => none

def string? : Json → Option String
  | .string s => some s
  | _ => none

def bool? : Json → Option Bool
  | .bool b => some b
  | _ => none

/-- The value of a field of an object. -/
def field? (key : String) : Json → Option Json
  | .object fields => Dict.find? key fields
  | _ => none

/-- The value as an unsigned 32-bit integer. -/
def uint32? (v : Json) : Option UInt32 :=
  match v.int? with
  | some n => if 0 ≤ n ∧ n < 0x100000000 then some (UInt32.ofNat n.toNat) else none
  | none => none

end Json
end Telemetry
