/-!
# Hardware seams

What the managers ask of the radio, the broker client and the relay wire. An instance is a piece
of hardware with its own state; every call returns the state after it. Nothing is assumed of the
answers.
-/

namespace Telemetry

namespace Transport

/-- How a piece of hardware refuses a request. -/
inductive Error
  | unavailable (reason : String)
  | rejected (reason : String)
  | io (reason : String)
  deriving DecidableEq, Repr

def Error.label : Error → String
  | unavailable _ => "unavailable"
  | rejected _ => "rejected"
  | io _ => "io"

def Error.message : Error → String
  | unavailable reason => "Transport unavailable: " ++ reason
  | rejected reason => "Transport rejected request: " ++ reason
  | io reason => "Transport I/O failed: " ++ reason

/-- What the broker is to publish when a session ends without a goodbye. -/
structure LastWill where
  topic : String
  payload : String
  retain : Bool
  deriving DecidableEq, Repr

/-- All that a client needs to open a session. -/
structure ConnectOptions where
  clientId : String
  host : String
  port : UInt16
  username : Option String
  password : Option String
  keepAliveSecs : UInt16
  lastWill : LastWill
  deriving DecidableEq, Repr

structure Message where
  topic : String
  payload : List UInt8
  retain : Bool
  deriving DecidableEq, Repr

/-- Did the hardware accept? -/
def accepted {α : Type} (answer : Except Error α) : Bool :=
  match answer with
  | .ok _ => true
  | .error _ => false

end Transport

open Transport

/-- A local-area radio. -/
class Radio (ρ : Type) where
  /-- Starts an association; `isConnected` shows when it stands. -/
  associate : (identity secret : String) → ρ → Except Error Unit × ρ
  isConnected : ρ → Bool
  /-- Drops the association, and switches the radio off if asked to. -/
  disconnect : (powerDown : Bool) → ρ → ρ
  address : ρ → Option String
  /-- In dBm. -/
  signal : ρ → Int

/-- A client of the message broker. -/
class Client (β : Type) where
  /-- Starts a session; `isConnected` shows when it stands. -/
  connect : ConnectOptions → β → Except Error Unit × β
  isConnected : β → Bool
  disconnect : β → β
  publish : Message → β → Except Error Unit × β

/-- A byte link that carries lines. -/
class Wire (ω : Type) where
  /-- Writes the line and its terminator. -/
  writeLine : String → ω → Except Error Unit × ω
  /-- Reads what is there, at most `limit` bytes; an empty answer means that nothing is pending. -/
  read : (limit : Nat) → ω → Except Error (List UInt8) × ω

end Telemetry
