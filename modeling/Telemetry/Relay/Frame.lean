import Telemetry.Failure
import Telemetry.Json.Printer
import Telemetry.Json.Reader
import Telemetry.Text.Blank

/-!
# Relay frames

A frame is one line of JSON between the main unit and its companion. The main unit sends records
and status queries, the companion sends reports. Reading is lenient: unknown commands and fields are
passed over, and a flag that is absent is false.
-/

namespace Telemetry.Relay

/-- What the companion reports of its connections. -/
structure Report where
  status : String
  /-- Is the link up? -/
  link : Bool
  /-- Is the broker session up? -/
  broker : Bool
  address : Option String
  deriving DecidableEq, Repr

inductive Frame
  | publish (data : Json)
  | query
  | report (r : Report)
  deriving Repr

namespace Frame

/-- Why a line is not a frame. -/
inductive Error
  | invalidJson
  | notAnObject
  | noData
  | badReport
  deriving DecidableEq, Repr

def Error.message : Error → String
  | invalidJson => "invalid JSON: not one JSON value"
  | notAnObject => "frame is not a JSON object"
  | noData => "pub frame without data object"
  | badReport => "bad status frame: a field has the wrong type"

def Error.failure (e : Error) : Failure := .frameMalformed e.message

def json : Frame → Json
  | publish data => .object [("cmd", .string "pub"), ("data", data)]
  | query => .object [("cmd", .string "status")]
  | report r =>
    .object
      ([("status", .string r.status), ("wifi", .bool r.link), ("mqtt", .bool r.broker)] ++
        match r.address with
        | some a => [("ip", .string a)]
        | none => [])

/-- The line without its terminator, at most `limit` bytes long. -/
def encode (limit : Nat) (f : Frame) : Except Failure String :=
  let line := f.json.render
  if limit < line.utf8ByteSize then .error (.payloadTooLarge line.utf8ByteSize limit) else .ok line

/-- A flag of a report. -/
def flag? (key : String) (fields : List (String × Json)) : Option Bool :=
  match Dict.find? key fields with
  | none => some false
  | some v => v.bool?

/-- The address of a report. -/
def address? (fields : List (String × Json)) : Option (Option String) :=
  match Dict.find? "ip" fields with
  | none | some .null => some none
  | some v => v.string?.map some

def report? (fields : List (String × Json)) (status : Json) : Option Report := do
  let status ← status.string?
  let link ← flag? "wifi" fields
  let broker ← flag? "mqtt" fields
  let address ← address? fields
  return { status, link, broker, address }

/-- The frame that the fields of an object describe, if it is one of ours. -/
def ofFields (fields : List (String × Json)) : Except Error (Option Frame) :=
  match Dict.find? "cmd" fields with
  | some (.string "pub") =>
    match Dict.find? "data" fields with
    | some (.object data) => .ok (some (publish (.object data)))
    | _ => .error .noData
  | some (.string "status") => .ok (some query)
  | some _ => .ok none
  | none =>
    match Dict.find? "status" fields with
    | none => .ok none
    | some status =>
      match report? fields status with
      | some r => .ok (some (report r))
      | none => .error .badReport

/-- Reads a line; a JSON object of no use to us is no error and no frame. -/
def parse (line : String) : Except Error (Option Frame) :=
  match Json.read? (String.ofList (Text.trim line.toList)) with
  | none => .error .invalidJson
  | some (.object fields) => ofFields fields
  | some _ => .error .notAnObject

end Frame
end Telemetry.Relay
