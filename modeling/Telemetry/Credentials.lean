import Telemetry.Failure
import Telemetry.Text.Diagnostic

/-!
# Network credentials

The identity and the secret of a network, each of bounded length.
-/

namespace Telemetry

structure Credentials where
  identity : String
  secret : String
  deriving DecidableEq, Repr

namespace Credentials

def maxIdentity : Nat := 32

def maxSecret : Nat := 64

inductive Error
  | identityLength (bytes : Nat)
  | secretLength (bytes : Nat)
  deriving DecidableEq, Repr

def Error.message : Error → String
  | identityLength n => s!"network identity must be 1-{maxIdentity} bytes, got {n}"
  | secretLength n => s!"network secret must be 1-{maxSecret} bytes, got {n}"

def Error.failure (e : Error) : Failure := .configInvalid e.message

/-- Is the number of bytes between one and the limit? -/
def fits (limit : Nat) (s : String) : Bool := 0 < s.utf8ByteSize && s.utf8ByteSize ≤ limit

def make (identity secret : String) : Except Error Credentials :=
  if !fits maxIdentity identity then .error (.identityLength identity.utf8ByteSize)
  else if !fits maxSecret secret then .error (.secretLength secret.utf8ByteSize)
  else .ok { identity, secret }

/-- The credentials without the secret. -/
def diagnostic (c : Credentials) : String :=
  Text.Diagnostic.record "Credentials"
    [("identity", Text.Diagnostic.quote c.identity), ("secret", Text.Diagnostic.redacted)]

end Credentials
end Telemetry
