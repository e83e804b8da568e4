import Telemetry.Dict
import Telemetry.Store.Error

/-!
# Stores

A store keeps values under keys across restarts. Its writes may fail. `putAll` makes several writes
as a group: when one fails, the keys already written get their previous values back.
-/

namespace Telemetry

namespace Store

inductive Value
  | bool (value : Bool)
  | integer (value : Int64)
  | string (value : String)
  deriving DecidableEq, Repr

/-! ## Keys -/

def linkEnabled : String := "link_enabled"

def linkIdentity : String := "link_identity"

def linkSecret : String := "link_secret"

def brokerEnabled : String := "broker_enabled"

def brokerHost : String := "broker_host"

def brokerPort : String := "broker_port"

def brokerUsername : String := "broker_username"

def brokerPassword : String := "broker_password"

end Store

/-- A store of keyed values. A write answers with its outcome and the store after it. -/
class Storage (σ : Type) where
  lookup : String → σ → Option Store.Value
  /-- Sets the value of a key, or removes the key. -/
  put : String → Option Store.Value → σ → Except Store.Error Unit × σ
  /-- Removes all keys. -/
  clear : σ → Except Store.Error Unit × σ

namespace Storage

variable {σ : Type} [Storage σ]

def string? (key : String) (s : σ) : Option String :=
  match lookup key s with
  | some (.string v) => some v
  | _ => none

def integer? (key : String) (s : σ) : Option Int64 :=
  match lookup key s with
  | some (.integer v) => some v
  | _ => none

def bool? (key : String) (s : σ) : Option Bool :=
  match lookup key s with
  | some (.bool v) => some v
  | _ => none

/-- What a key holds, whatever its type. -/
def value? (key : String) (s : σ) : Option Store.Value :=
  (string? key s).map .string <|> (integer? key s).map .integer <|> (bool? key s).map .bool

/-- There is a type for everything that a key can hold. -/
theorem value?_eq_lookup (key : String) (s : σ) : value? key s = lookup key s := by
  unfold value? string? integer? bool?
  cases lookup key s with
  | none => rfl
  | some v => cases v <;> rfl

/-- Writes for as long as no write fails. -/
def putEach : List (String × Option Store.Value) → σ → Except Store.Error Unit × σ
  | [], s => (.ok (), s)
  | (key, value) :: rest, s =>
    match put key value s with
    | (.ok (), s) => putEach rest s
    | (.error e, s) => (.error e, s)

/-- Writes whatever fails. -/
def restore (writes : List (String × Option Store.Value)) (s : σ) : σ :=
  writes.foldl (fun s w => (put w.1 w.2 s).2) s

/-- Writes in order; `old` is what the writes already made have overwritten, in the order in which
it is to be restored. -/
def putRest (old : List (String × Option Store.Value)) :
    List ((String × Option Store.Value) × Option Store.Value) → σ →
      Except Store.Error Unit × σ
  | [], s => (.ok (), s)
  | ((key, value), before) :: rest, s =>
    match put key value s with
    | (.ok (), s) => putRest (old ++ [(key, before)]) rest s
    | (.error e, s) => (.error e, restore old s)

/-- Makes the writes in order, and undoes those already made if one fails. -/
def putAll (writes : List (String × Option Store.Value)) (s : σ) : Except Store.Error Unit × σ :=
  putRest [] (writes.map fun w => (w, value? w.1 s)) s

end Storage
end Telemetry
