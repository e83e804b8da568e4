import Telemetry.Json.Basic
import Telemetry.Json.Quoted

/-!
# Printing JSON

The compact form, without any space. Fields are written in the order in which the object holds
them.
-/

namespace Telemetry.Json

/-- Positional from `0.00001` up to but not including `1e16`. -/
def floatLayout : Binary64.Layout := { least := -5, bound := 16 }

def Number.chars : Number → List Char
  | .int n => (toString n).toList
  | .float x => x.chars floatLayout

def stringChars (s : String) : List Char := '"' :: Quoted.encode s.toList ++ ['"']

mutual

def chars : Json → List Char
  | .null => "null".toList
  | .bool b => (toString b).toList
  | .number n => n.chars
  | .string s => stringChars s
  | .array items => '[' :: itemChars items ++ [']']
  | .object fields => '\x7b' :: fieldChars fields ++ ['\x7d']

/-- The elements of an array, with commas between them. -/
def itemChars : List Json → List Char
  | [] => []
  | [v] => chars v
  | v :: w :: rest => chars v ++ ',' :: itemChars (w :: rest)

/-- The fields of an object, with commas between them. -/
def fieldChars : List (String × Json) → List Char
  | [] => []
  | [(k, v)] => stringChars k ++ ':' :: chars v
  | (k, v) :: f :: rest => stringChars k ++ ':' :: chars v ++ ',' :: fieldChars (f :: rest)

end

def render (v : Json) : String := String.ofList v.chars

end Telemetry.Json
