/-!
# Topics and device ids

A device publishes each item on its own topic and its presence on another. The device id is part
of both and serves as the client id, so it is restricted to letters, digits, `.`, `_` and `-`.
-/

namespace Telemetry

/-- Why a text is not a device id. -/
inductive Topic.DeviceIdError
  | empty
  | invalidChar (c : Char)
  deriving DecidableEq, Repr

/-- Where a device publishes. -/
structure Topics where
  /-- The segments in front of the device id. -/
  root : String
  deviceId : String
  deriving DecidableEq, Repr

namespace Topic

def DeviceIdError.label : DeviceIdError → String
  | empty => "empty"
  | invalidChar _ => "invalid_char"

def DeviceIdError.message : DeviceIdError → String
  | empty => "Device ID cannot be empty"
  | invalidChar c => "Device ID contains invalid character: '" ++ c.toString ++ "'"

/-- The characters of device ids; letters and digits are those of ASCII. -/
def isDeviceIdChar (c : Char) : Bool := c.isAlphanum || c == '.' || c == '_' || c == '-'

def checkDeviceId (id : String) : Except DeviceIdError Unit :=
  if id.isEmpty then .error .empty
  else
    match id.toList.find? fun c => !isDeviceIdChar c with
    | some c => .error (.invalidChar c)
    | none => .ok ()

end Topic

namespace Topics

/-- `root/device/items/item` -/
def item (t : Topics) (id : UInt32) : String :=
  t.root ++ "/" ++ t.deviceId ++ "/items/" ++ toString id.toNat

/-- `root/device/status` -/
def presence (t : Topics) : String := t.root ++ "/" ++ t.deviceId ++ "/status"

end Topics
end Telemetry
