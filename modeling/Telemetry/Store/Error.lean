/-!
# Store errors
-/

namespace Telemetry.Store

inductive Error
  | io (reason : String)
  | serialization (reason : String)
  | poisoned
  deriving DecidableEq, Repr

def Error.message : Error → String
  | io reason => "Store I/O failed: " ++ reason
  | serialization reason => "Store serialization failed: " ++ reason
  | poisoned => "Store lock poisoned"

end Telemetry.Store
