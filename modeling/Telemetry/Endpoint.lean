import Telemetry.Failure
import Telemetry.Text.Diagnostic

/-!
# The broker's endpoint

Where the broker is and how to log in. An empty user name or password means that there is none.
-/

namespace Telemetry

structure Endpoint where
  host : String
  port : UInt16
  username : Option String := none
  password : Option String := none
  deriving DecidableEq, Repr

namespace Endpoint

def maxHost : Nat := 128

def maxUsername : Nat := 64

def maxPassword : Nat := 64

inductive Error
  | hostLength (bytes : Nat)
  | zeroPort
  | usernameLength
  | passwordLength
  deriving DecidableEq, Repr

def Error.message : Error → String
  | hostLength n => s!"broker host must be 1-{maxHost} bytes, got {n}"
  | zeroPort => "broker port must be non-zero"
  | usernameLength => s!"broker username exceeds {maxUsername} bytes"
  | passwordLength => s!"broker password exceeds {maxPassword} bytes"

def Error.failure (e : Error) : Failure := .configInvalid e.message

def isTooLong (limit : Nat) (s : Option String) : Bool :=
  match s with
  | some s => limit < s.utf8ByteSize
  | none => false

def make (host : String) (port : UInt16) (username password : Option String) :
    Except Error Endpoint :=
  let username := username.filter fun s => !s.isEmpty
  let password := password.filter fun s => !s.isEmpty
  if host.isEmpty || maxHost < host.utf8ByteSize then .error (.hostLength host.utf8ByteSize)
  else if port = 0 then .error .zeroPort
  else if isTooLong maxUsername username then .error .usernameLength
  else if isTooLong maxPassword password then .error .passwordLength
  else .ok { host, port, username, password }

/-- The endpoint without the password. -/
def diagnostic (e : Endpoint) : String :=
  open Text.Diagnostic in
  record "BrokerConfig"
    [ ("host", quote e.host),
      ("port", toString e.port),
      ("username", option (e.username.map quote)),
      ("password", option (e.password.map fun _ => redacted)) ]

end Endpoint
end Telemetry
