import Telemetry.Json.Basic
import Telemetry.Settings.Tree
import Telemetry.Text.Utf8
import Telemetry.Toml.Reader

/-!
# Reading settings

Settings are read from a TOML document and checked before they are used.
-/

namespace Telemetry.Settings

/-- The settings if they pass the checks. -/
def checked (s : Settings) : Except Error Settings := do
  s.validate
  return s

/-- Settings in TOML. -/
def ofToml (text : String) : Except Error Settings :=
  match (Toml.read? text).bind fun fields =>
      (Tree.ofToml (.table .header fields)).settings? .toml with
  | some s => checked s
  | none => .error (.malformed "not a document of settings")

/-- Settings in JSON, unchecked. -/
def ofJson? (v : Json) : Option Settings := (Tree.ofJson v).settings? .json

/-- Settings in the bytes of a file; there are none if it could not be read. -/
def ofFile (content : Option (List UInt8)) : Except Error Settings :=
  match content with
  | none => .error (.unreadable "no such file")
  | some bytes =>
    match Text.ofUtf8? bytes with
    | none => .error (.unreadable "stream did not contain valid UTF-8")
    | some text => ofToml text

end Telemetry.Settings
