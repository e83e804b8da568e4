/-!
# Settings errors
-/

namespace Telemetry.Settings

inductive Error
  | unreadable (reason : String)
  | malformed (reason : String)
  | deviceId (reason : String)
  | invalid (reason : String)
  deriving DecidableEq, Repr

def Error.message : Error → String
  | unreadable reason => "Failed to read config file: " ++ reason
  | malformed reason => "Failed to parse TOML: " ++ reason
  | deviceId reason => "Invalid device ID format: " ++ reason
  | invalid reason => "Invalid configuration: " ++ reason

end Telemetry.Settings
