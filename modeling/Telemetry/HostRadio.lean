import Telemetry.Transport

/-!
# The host's network

A radio for machines whose network is managed by their operating system: to associate only records the
request. The address is that of the route out, which the host knows and the device does not.
-/

namespace Telemetry

structure HostRadio where
  /-- The host's address on the route out. -/
  route : Option String
  associated : Bool := false
  /-- The network that was last asked for. -/
  identity : Option String := none
  deriving DecidableEq, Repr

namespace HostRadio

def associate (identity secret : String) (r : HostRadio) :
    Except Transport.Error Unit × HostRadio :=
  if identity.isEmpty || secret.isEmpty then (.error (.rejected "empty network credentials"), r)
  else (.ok (), { r with associated := true, identity := some identity })

instance : Radio HostRadio where
  associate := associate
  isConnected r := r.associated
  disconnect _ r := { r with associated := false }
  address r := if r.associated then r.route else none
  signal _ := 0

end HostRadio
end Telemetry
