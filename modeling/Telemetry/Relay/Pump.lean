import Telemetry.Relay.Assembler
import Telemetry.Transport

/-!
# Pumping bytes

At each tick a relay endpoint reads what has arrived, chunk by chunk, and handles the lines in each
chunk before it reads the next. A tick reads until nothing is pending, the wire fails, or the budget
is used up.
-/

namespace Telemetry.Relay

/-- A read asks for at most this many bytes. -/
def chunkBytes : Nat := 64

/-- A tick starts no read after this many bytes. -/
def pumpBudget : Nat := 4096

/-- An endpoint that reads lines from a wire and handles them. -/
class LineEnd (ω : outParam Type) (S : Type) where
  wire : S → ω
  withWire : ω → S → S
  assembler : S → Assembler
  withAssembler : Assembler → S → S
  handle : String → S → S

namespace LineEnd

variable {ω S : Type} [Wire ω] [LineEnd ω S]

/-- The next chunk; a wire that fails yields none. -/
def readChunk (s : S) : List UInt8 × S :=
  let r := Wire.read chunkBytes (wire s)
  (match r.1 with | .ok bytes => bytes | .error _ => [], withWire r.2 s)

/-- Handles the lines that a chunk completes. -/
def take (bytes : List UInt8) (s : S) : S :=
  let r := (assembler s).feed bytes
  r.1.foldl (fun s line => handle line s) (withAssembler r.2 s)

/-- Reads for as long as the budget is not used up. -/
def pump (budget : Nat) (s : S) : S :=
  if 0 < budget then
    match readChunk s with
    | ([], s) => s
    | (byte :: rest, s) => pump (budget - (rest.length + 1)) (take (byte :: rest) s)
  else s
termination_by budget

end LineEnd
end Telemetry.Relay
