import Telemetry.Text.Blank
import Telemetry.Text.Cut
import Telemetry.Text.Decimal

/-!
# The configuration console

Lines typed at the companion. `wifi` and `mqtt` set up the two connections; the network name and
the passwords may contain spaces, since a key is looked for anywhere in the line.
-/

namespace Telemetry.Relay.Console

inductive Command
  | wifi (ssid pass : String)
  | mqtt (host : String) (port : UInt16) (user pass : Option String)
  | status
  | reset
  | help
  deriving DecidableEq, Repr

inductive Error
  | usage (form : String)
  | unknown
  deriving DecidableEq, Repr

def Error.message : Error → String
  | usage form => "Usage: " ++ form
  | unknown => "Unknown command. Type 'help' for usage."

def defaultPort : UInt16 := 1883

def wifiUsage : String := "wifi ssid=<ssid> pass=<password>"

def mqttUsage : String := "mqtt broker=<host> port=<port> [user=<user> pass=<pass>]"

def helpLines : List String :=
  [ "Available commands:",
    "  " ++ wifiUsage,
    "  " ++ mqttUsage,
    "  status",
    "  reset",
    "  help" ]

def ssidKey : List Char := "ssid=".toList

def passKey : List Char := "pass=".toList

/-- The network name stands between its key and the key of the password. -/
def wifi? (params : List Char) : Option Command := do
  let ssidAt ← Text.find? ssidKey params
  let passAt ← Text.find? passKey params
  if passAt < ssidAt then none
  let ssid ← Text.nonBlank? ((params.take passAt).drop (ssidAt + ssidKey.length))
  return .wifi ssid (String.ofList (Text.trim (params.drop (passAt + passKey.length))))

/-- The endpoint settings gathered from the words of a line. -/
structure Endpoint where
  host : Option String := none
  port : UInt16 := defaultPort
  user : Option String := none
  deriving DecidableEq, Repr

/-- Takes one word in; a later word replaces an earlier one of the same key. -/
def Endpoint.word? (e : Endpoint) (word : List Char) : Option Endpoint :=
  match Text.after? "broker=".toList word with
  | some value => some { e with host := Text.nonBlank? value }
  | none =>
    match Text.after? "port=".toList word with
    | some value => ((Text.signedDecimal? value).bind Text.port?).map fun port => { e with port }
    | none =>
      match Text.after? "user=".toList word with
      | some value => some { e with user := Text.nonBlank? value }
      | none => some e

/-- The password takes the rest of the line, the other values end at a blank. -/
def mqtt? (params : List Char) : Option Command := do
  let passAt := Text.find? passKey params
  let words := Text.words (match passAt with | some i => params.take i | none => params)
  let pass := passAt.bind fun i => Text.nonBlank? (params.drop (i + passKey.length))
  let e ← words.foldlM Endpoint.word? ({} : Endpoint)
  let host ← e.host
  return .mqtt host e.port e.user pass

def usageUnless (form : String) (c : Option Command) : Except Error (Option Command) :=
  match c with
  | some c => .ok (some c)
  | none => .error (.usage form)

/-- Reads a line; a blank line is no command. -/
def parse (line : String) : Except Error (Option Command) :=
  let cs := Text.trim line.toList
  if cs = [] then .ok none
  else if cs = "help".toList then .ok (some .help)
  else if cs = "status".toList then .ok (some .status)
  else if cs = "reset".toList then .ok (some .reset)
  else
    match Text.after? "wifi ".toList cs with
    | some params => usageUnless wifiUsage (wifi? params)
    | none =>
      match Text.after? "mqtt ".toList cs with
      | some params => usageUnless mqttUsage (mqtt? params)
      | none => .error .unknown

end Telemetry.Relay.Console
