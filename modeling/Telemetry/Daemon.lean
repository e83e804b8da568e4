import Telemetry.CommandLine
import Telemetry.HostRadio
import Telemetry.Mqtt
import Telemetry.Provisioning.Service
import Telemetry.Settings.Printer
import Telemetry.Settings.Reader
import Telemetry.Store.File

/-!
# The daemon

What a call of `uplinkd` prints, how it ends and which files it leaves. The device itself is a station on
the host's network; it is started for `run` and for `provision`, which applies writes to it.
-/

namespace Telemetry.Daemon

open CommandLine

/-- How a call ends. -/
structure Outcome where
  code : Nat
  output : String := ""
  tree : FileTree
  deriving DecidableEq, Repr

abbrev Device := Station HostRadio Mqtt.IdleClient Store.File

def succeeded : Nat := 0

def failed : Nat := 1

def misused : Nat := 2

/-! ## Settings -/

/-- Where settings are looked for when no file is named. -/
def candidates : List String := ["uplink.toml", "config/uplink.toml"]

/-- The settings in the named file, else in the first candidate that is there, else the defaults. -/
def settings (path : Option String) (tree : FileTree) : Except Settings.Error Settings :=
  match path <|> candidates.find? tree.doesExist with
  | some path => Settings.ofFile (tree.read path).toOption
  | none => .ok {}

/-! ## Commands -/

def device (s : Settings) (tree : FileTree) : Except Store.Error Device :=
  (Store.File.load s.device.storePath tree).map fun store =>
    Station.start s true { route := none } {} { now := 0, store }

/-- One part of `provision`. -/
inductive Action
  | credentials (text : String)
  | endpoint (text : String)
  | control (opcode : UInt8)
  | report
  deriving DecidableEq, Repr

def actions (p : Provision) : List Action :=
  (p.credentials.map .credentials).toList ++ (p.endpoint.map .endpoint).toList ++
    p.controls.map .control ++ if p.showStatus then [.report] else []

def outcomeLine (opcode : UInt8) : Provisioning.Outcome → String
  | .applied => "Control 0x" ++ Provisioning.hexByte opcode ++ " applied"
  | .tested accepted => s!"Connection test accepted: {accepted}"
  | .reported report => report

/-- The line that an action prints. -/
def perform (a : Action) (d : Device) : Except Failure String × Device :=
  match a with
  | .credentials text =>
    (Provisioning.writeCredentials (Text.utf8 text) d).map
      (·.map fun _ => "Credentials stored") id
  | .endpoint text =>
    (Provisioning.writeEndpoint (Text.utf8 text) d).map
      (·.map fun _ => "Broker settings stored") id
  | .control opcode => (Provisioning.control [opcode] d).map (·.map (outcomeLine opcode)) id
  | .report => (.ok (Provisioning.report d), d)

/-- Performs actions until one fails; the output is what was printed until then. -/
def performAll : List Action → Device → Nat × String × Device
  | [], d => (succeeded, "", d)
  | a :: rest, d =>
    match perform a d with
    | (.error _, d) => (failed, "", d)
    | (.ok line, d) =>
      let r := performAll rest d
      (r.1, line ++ "\n" ++ r.2.1, r.2.2)

def provision (p : Provision) (s : Settings) (tree : FileTree) : Outcome :=
  match device s tree with
  | .error _ => { code := failed, tree }
  | .ok d =>
    let r := performAll (actions p) d
    { code := r.1, output := r.2.1, tree := r.2.2.store.tree }

/-- A station starts if its store can be read. A main unit needs a serial device, and none is
among files. -/
def start (s : Settings) (tree : FileTree) : Outcome :=
  match s.device.mode with
  | .relay => { code := failed, tree }
  | .direct =>
    match device s tree with
    | .error _ => { code := failed, tree }
    | .ok d => { code := succeeded, tree := d.store.tree }

def config (shown : Bool) (s : Settings) (tree : FileTree) : Outcome :=
  { code := succeeded
    output := if shown then "Current configuration:\n" ++ s.render ++ "\n" else ""
    tree }

def execute (i : Invocation) (tree : FileTree) : Outcome :=
  match settings i.settingsPath tree with
  | .error _ => { code := failed, tree }
  | .ok s =>
    match i.command with
    | .run => start s tree
    | .provision p => provision p s tree
    | .config shown => config shown s tree

/-- A call with these arguments. -/
def call (environment : Environment) (args : List String) (tree : FileTree) : Outcome :=
  match parse environment args with
  | .error .usage => { code := misused, tree }
  | .error (.text s) => { code := succeeded, output := environment.printed s, tree }
  | .ok i => execute i tree

end Telemetry.Daemon
