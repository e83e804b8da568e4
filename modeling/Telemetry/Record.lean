import Telemetry.Failure
import Telemetry.Json.Printer

/-!
# Records

A record is an item id and a JSON object. The payload always carries the id as `item_id`, so that
the topic can be found from the payload alone.
-/

namespace Telemetry

inductive Record
  | object (id : UInt32) (fields : List (String × Json))
  /-- A record whose owner cannot put it into JSON. -/
  | unencodable (id : UInt32)
  deriving Repr

namespace Record

inductive Error
  | notAnObject
  | noItemId
  deriving DecidableEq, Repr

def Error.message : Error → String
  | notAnObject => "record must be a JSON object"
  | noItemId => "record needs a u32 item_id"

def Error.failure (e : Error) : Failure := .configInvalid e.message

def idKey : String := "item_id"

def id : Record → UInt32
  | object id _ => id
  | unencodable id => id

def empty (id : UInt32) : Record := object id []

def withField (key : String) (value : Json) : Record → Record
  | object id fields => object id (Dict.insert key value fields)
  | unencodable id => unencodable id

/-- The record that a JSON object with an `item_id` describes. -/
def ofJson : Json → Except Error Record
  | .object fields =>
    match (Dict.find? idKey fields).bind Json.uint32? with
    | some id => .ok (object id fields)
    | none => .error .noItemId
  | _ => .error .notAnObject

def json? : Record → Option Json
  | object id fields => some (.object (Dict.insert idKey (Json.ofNat id.toNat) fields))
  | unencodable _ => none

/-- The payload, at most `limit` bytes long. -/
def encode (limit : Nat) (r : Record) : Except Failure String :=
  match r.json? with
  | none => .error (.frameMalformed "record encoding failed: no JSON form")
  | some v =>
    let payload := v.render
    if limit < payload.utf8ByteSize then .error (.payloadTooLarge payload.utf8ByteSize limit)
    else .ok payload

end Record
end Telemetry
