import Telemetry.Settings.Error
import Telemetry.Store.Error
import Telemetry.Transport

/-!
# Failures

The kinds of failure that an operation of the device can report, each with a label and a text.
-/

namespace Telemetry

inductive Failure
  /-- A setter refused its argument. -/
  | configInvalid (reason : String)
  /-- The component is off or not set up. -/
  | notReady (reason : String)
  | transient (reason : String)
  | payloadTooLarge (size limit : Nat)
  | frameMalformed (reason : String)
  /-- The queue is full and refused an entry. -/
  | queueExhausted (capacity : Nat)
  | storage (cause : Store.Error)
  | settings (cause : Settings.Error)
  | transport (cause : Transport.Error)
  deriving DecidableEq, Repr

namespace Failure

def label : Failure → String
  | configInvalid _ => "config_invalid"
  | notReady _ => "not_ready"
  | transient _ => "transient_connectivity"
  | payloadTooLarge _ _ => "payload_too_large"
  | frameMalformed _ => "frame_malformed"
  | queueExhausted _ => "queue_exhausted"
  | storage _ => "storage"
  | settings _ => "config"
  | transport _ => "transport"

def message : Failure → String
  | configInvalid reason => "Invalid configuration: " ++ reason
  | notReady reason => "Not ready: " ++ reason
  | transient reason => "Transient connectivity failure: " ++ reason
  | payloadTooLarge size limit =>
    s!"Payload too large: {size} bytes exceeds maximum {limit}"
  | frameMalformed reason => "Malformed frame: " ++ reason
  | queueExhausted capacity => s!"Retry queue exhausted (capacity {capacity})"
  | storage cause => "Storage error: " ++ cause.message
  | settings cause => "Configuration error: " ++ cause.message
  | transport cause => "Transport error: " ++ cause.message

end Failure
end Telemetry
