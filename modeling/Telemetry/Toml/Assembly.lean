import Telemetry.Toml.Basic

/-!
# Assembling a TOML document

A document is a list of statements: headers, which say where the following pairs belong, and pairs of a
dotted key and a value. Nothing may be set twice; a table may be given a header of its own once, and
only dotted keys may add to a table that dotted keys have made.
-/

namespace Telemetry.Toml

inductive Statement
  /-- `[path]` -/
  | header (path : List String)
  /-- `[[path]]` -/
  | member (path : List String)
  /-- `path.key = value` -/
  | pair (path : List String) (key : String) (value : Toml)
  deriving Repr

/-- Changes the table at the end of a path. Tables that are missing on the way are made; of an array of
tables the last one is meant. A dotted key goes through no table that has a header. -/
def change (dotted : Bool) (f : Origin → Fields → Option Fields) :
    List String → Origin → Fields → Option Fields
  | [], origin, fields => f origin fields
  | key :: path, _, fields =>
    match fields.find? key with
    | none =>
      let origin := if dotted then Origin.dotted else .implied
      (change dotted f path origin []).map fun inner => fields ++ [(key, .table origin inner)]
    | some (.table origin inner) =>
      if dotted && origin == .header then none
      else
        (change dotted f path origin inner).map fun inner =>
          fields.replace key (.table origin inner)
    | some (.tables (last :: others)) =>
      (change dotted f path .header last).map fun last =>
        fields.replace key (.tables (last :: others))
    | some _ => none

/-- Adds a pair to a table. A dotted key may only end in a table that dotted keys have made. -/
def addPair (path : List String) (key : String) (value : Toml) (fields : Fields) : Option Fields :=
  change true
    (fun origin inner =>
      if (origin == .dotted) == path.isEmpty then none
      else if (inner.find? key).isSome then none
      else some (inner ++ [(key, value)]))
    path .header fields

/-- Gives the table `key` a header. -/
def addHeader (key : String) (fields : Fields) : Option Fields :=
  match fields.find? key with
  | none => some (fields ++ [(key, .table .header [])])
  | some (.table .implied inner) => some (fields.remove key ++ [(key, .table .header inner)])
  | some _ => none

/-- Adds an empty table to the array of tables `key`. -/
def addMember (key : String) (fields : Fields) : Option Fields :=
  match fields.find? key with
  | none => some (fields ++ [(key, .tables [[]])])
  | some (.tables members) => some (fields.replace key (.tables ([] :: members)))
  | some _ => none

/-- The document so far, and where pairs belong. -/
structure Assembly where
  root : Fields := []
  current : List String := []

def Assembly.open? (path : List String) (add : String → Fields → Option Fields) (a : Assembly) :
    Option Assembly :=
  match path.getLast? with
  | none => none
  | some key =>
    (change false (fun _ fields => add key fields) path.dropLast .header a.root).map fun root =>
      { root, current := path }

def Assembly.add (a : Assembly) : Statement → Option Assembly
  | .header path => a.open? path addHeader
  | .member path => a.open? path addMember
  | .pair path key value =>
    (change false (fun _ fields => addPair path key value fields) a.current .header a.root).map
      fun root => { a with root }

def assemble (statements : List Statement) : Option Fields :=
  (statements.foldlM Assembly.add ({} : Assembly)).map (·.root)

/-- The table in braces with these pairs. -/
def assembleInline (pairs : List (List String × String × Toml)) : Option Fields :=
  pairs.foldlM (fun fields p => addPair p.1 p.2.1 p.2.2 fields) []

end Telemetry.Toml
