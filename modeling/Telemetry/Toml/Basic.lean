/-!
# TOML values

A document is a table. Tables remember how they came about, since that decides what may still be added
to them.
-/

namespace Telemetry

/-- How a table came about. -/
inductive Toml.Origin
  /-- It has a header of its own, or is the document itself. -/
  | header
  /-- A longer header goes through it. -/
  | implied
  /-- A dotted key goes through it. -/
  | dotted
  deriving DecidableEq, Repr

inductive Toml
  | string (text : String)
  | integer (value : Int)
  /-- A number that is not an integer, as it is written. -/
  | float (text : String)
  | boolean (value : Bool)
  /-- A date, a time or both. Which one is not kept, as nothing here is set by it. -/
  | moment
  | array (items : List Toml)
  /-- A table in braces, which is complete. -/
  | inline (fields : List (String × Toml))
  | table (origin : Toml.Origin) (fields : List (String × Toml))
  /-- The tables with the same double-bracketed header, the last one first. -/
  | tables (members : List (List (String × Toml)))
  deriving Repr, Inhabited

namespace Toml

abbrev Fields := List (String × Toml)

def Fields.find? (key : String) : Fields → Option Toml
  | [] => none
  | (k, v) :: rest => if k = key then some v else find? key rest

def Fields.replace (key : String) (value : Toml) (fields : Fields) : Fields :=
  fields.map fun f => if f.1 = key then (key, value) else f

def Fields.remove (key : String) (fields : Fields) : Fields :=
  fields.filter fun f => f.1 ≠ key

end Toml
end Telemetry
