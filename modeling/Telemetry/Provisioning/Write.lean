import Telemetry.Failure
import Telemetry.Text.Blank
import Telemetry.Text.Cut
import Telemetry.Text.Decimal
import Telemetry.Text.Utf8

/-!
# Provisioning writes

What a provisioning peer writes: `identity|secret`, `host:port|username|password`, or a control
byte. Each reader yields a complete value or the first thing that is wrong.
-/

namespace Telemetry.Provisioning

inductive Error
  | empty
  | tooLong (limit : Nat)
  | notUtf8
  | missingSeparator (separator : Char)
  | emptyField (field : String)
  | invalidPort (text : String)
  | unknownOpcode (opcode : UInt8)
  deriving DecidableEq, Repr

/-- Two hexadecimal digits, upper case. -/
def hexByte (b : UInt8) : String :=
  let digit (n : Nat) : Char := (Nat.digitChar n).toUpper
  String.ofList [digit (b.toNat / 16), digit (b.toNat % 16)]

namespace Error

def label : Error → String
  | empty => "empty"
  | tooLong _ => "too_long"
  | notUtf8 => "not_utf8"
  | missingSeparator _ => "missing_separator"
  | emptyField _ => "empty_field"
  | invalidPort _ => "invalid_port"
  | unknownOpcode _ => "unknown_opcode"

def message : Error → String
  | empty => "payload is empty"
  | tooLong limit => s!"payload exceeds {limit} bytes"
  | notUtf8 => "payload is not valid UTF-8"
  | missingSeparator separator => "missing '" ++ separator.toString ++ "' separator"
  | emptyField field => field ++ " is empty"
  | invalidPort text => "invalid port '" ++ text ++ "'"
  | unknownOpcode opcode => "unknown control opcode 0x" ++ hexByte opcode

def failure (e : Error) : Failure := .configInvalid e.message

end Error

/-- The longest write that is accepted. -/
def maxPayload : Nat := 256

/-- The text of a write of at most 256 bytes. -/
def decode (raw : List UInt8) : Except Error String :=
  if raw.isEmpty then .error .empty
  else if maxPayload < raw.length then .error (.tooLong maxPayload)
  else
    match Text.ofUtf8? raw with
    | some s => .ok s
    | none => .error .notUtf8

structure CredentialsWrite where
  identity : String
  secret : String
  deriving DecidableEq, Repr

/-- `identity|secret`; the first bar separates, so that a secret may contain more of them. -/
def parseCredentials (text : String) : Except Error CredentialsWrite :=
  match Text.splitFirst '|' text.toList with
  | none => .error (.missingSeparator '|')
  | some (left, right) =>
    match Text.nonBlank? left, Text.nonBlank? right with
    | none, _ => .error (.emptyField "identity")
    | some _, none => .error (.emptyField "secret")
    | some identity, some secret => .ok { identity, secret }

structure EndpointWrite where
  host : String
  port : UInt16
  username : Option String
  password : Option String
  deriving DecidableEq, Repr

/-- The user name and password that follow the first bar; without a second bar there are none. -/
def parseAuth (auth : Option (List Char)) : Option String × Option String :=
  match auth.bind (Text.splitFirst '|') with
  | some (username, password) => (Text.nonBlank? username, Text.nonBlank? password)
  | none => (none, none)

/-- `host:port|username|password` -/
def parseEndpoint (text : String) : Except Error EndpointWrite :=
  let (target, auth) :=
    match Text.splitFirst '|' text.toList with
    | some (target, auth) => (target, some auth)
    | none => (text.toList, none)
  match Text.splitFirst ':' target with
  | none => .error (.missingSeparator ':')
  | some (left, right) =>
    match Text.nonBlank? left with
    | none => .error (.emptyField "host")
    | some host =>
      let digits := Text.trim right
      match (Text.decimal? digits).bind Text.port? with
      | none => .error (.invalidPort (String.ofList digits))
      | some port =>
        let (username, password) := parseAuth auth
        .ok { host, port, username, password }

/-- The control commands. -/
inductive Control
  | enableLink
  | disableLink
  | enableBroker
  | disableBroker
  | testConnection
  | getStatus
  deriving DecidableEq, Repr

namespace Control

def all : List Control :=
  [enableLink, disableLink, enableBroker, disableBroker, testConnection, getStatus]

def opcode : Control → UInt8
  | enableLink => 1
  | disableLink => 2
  | enableBroker => 3
  | disableBroker => 4
  | testConnection => 5
  | getStatus => 6

def ofOpcode? (b : UInt8) : Option Control := all.find? fun c => c.opcode == b

end Control

/-- The first byte of a write is the command, the others are passed over. -/
def parseControl : List UInt8 → Except Error Control
  | [] => .error .empty
  | b :: _ =>
    match Control.ofOpcode? b with
    | some c => .ok c
    | none => .error (.unknownOpcode b)

end Telemetry.Provisioning
