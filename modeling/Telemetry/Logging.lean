/-!
# Log settings

The format and the level of the log, read from words in any case. Unknown words stand for the
defaults.
-/

namespace Telemetry.Logging

inductive Format
  | json
  | pretty
  | compact
  deriving DecidableEq, Repr

inductive Level
  | error
  | warn
  | info
  | debug
  | trace
  deriving DecidableEq, Repr

def Format.title : Format → String
  | json => "Json"
  | pretty => "Pretty"
  | compact => "Compact"

def Level.title : Level → String
  | error => "ERROR"
  | warn => "WARN"
  | info => "INFO"
  | debug => "DEBUG"
  | trace => "TRACE"

/-- Letters of ASCII in lower case; no other letter has a lower or upper case form that would matter
in the words here. -/
def fold (s : String) : String := s.map Char.toLower

def Format.ofWord (w : String) : Format :=
  match fold w with
  | "pretty" => pretty
  | "compact" => compact
  | _ => json

def Level.ofWord (w : String) : Level :=
  match fold w with
  | "error" => error
  | "warn" => warn
  | "debug" => debug
  | "trace" => trace
  | _ => info

end Telemetry.Logging
