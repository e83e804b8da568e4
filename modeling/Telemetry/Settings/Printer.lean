import Telemetry.Settings.Basic
import Telemetry.Toml.Printer

/-!
# Printing settings

Settings are shown as a TOML document: a table for each section and a line for each setting.
-/

namespace Telemetry.Settings

def Setting.render : Setting → String
  | text s => Toml.Printer.string s
  | number n => toString n

def renderTable (table : String × List (String × Setting)) : String :=
  "[" ++ table.1 ++ "]\n" ++
    String.join (table.2.map fun e => e.1 ++ " = " ++ e.2.render ++ "\n")

/-- The document, a blank line between tables. -/
def render (s : Settings) : String := "\n".intercalate (s.sections.map renderTable)

end Telemetry.Settings
