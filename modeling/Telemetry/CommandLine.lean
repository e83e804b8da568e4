import Telemetry.CommandLine.Help
import Telemetry.Text.Cut
import Telemetry.Text.Decimal

/-!
# The command line

`uplinkd [--config FILE] run | provision … | config …`. Arguments are taken from the left. A request for
help or for the version ends the reading at once, and so does a mistake. An option's value follows it, or
is joined to it by an equals sign; what begins with a dash is no value unless joined.
-/

namespace Telemetry.CommandLine

/-- What `provision` is to do. -/
structure Provision where
  credentials : Option String := none
  endpoint : Option String := none
  controls : List UInt8 := []
  showStatus : Bool := false
  deriving DecidableEq, Repr

inductive Command
  | run
  | provision (p : Provision)
  | config (shown : Bool)
  deriving DecidableEq, Repr

structure Invocation where
  /-- The file with the settings, if one is named. -/
  settingsPath : Option String
  command : Command
  deriving DecidableEq, Repr

/-- Why there is nothing to do. -/
inductive Stop
  /-- The arguments cannot be understood. -/
  | usage
  /-- The answer is this text for a terminal. -/
  | text (s : String)
  deriving DecidableEq, Repr

/-! ## The environment -/

/-- What the environment says to the program. -/
structure Environment where
  /-- The file with the settings, if the arguments name none. -/
  settingsPath : Option String := none
  /-- Is output styled although no terminal reads it? -/
  styled : Bool := false
  deriving DecidableEq, Repr

/-- The variables that matter. -/
def variableNames : List String := ["UPLINK_CONFIG", "CLICOLOR_FORCE", "NO_COLOR"]

/-- Styles are forced by one variable, and forbidden by another. An empty one says nothing. -/
def Environment.ofVariables (value? : String → Option String) : Environment :=
  let isSet (name : String) : Bool := !((value? name).getD "").isEmpty
  { settingsPath := value? "UPLINK_CONFIG", styled := isSet "CLICOLOR_FORCE" && !isSet "NO_COLOR" }

/-- What is printed of a text for a terminal. -/
def Environment.printed (e : Environment) (s : String) : String :=
  if e.styled then s else Text.Terminal.shown s

/-! ## Arguments -/

/-- The form of an argument. -/
inductive Argument
  | word
  /-- `--`: no options follow. -/
  | separator
  /-- `--name` or `--name=value` -/
  | long (name : String) (value : Option String)
  /-- `-x`, with the characters after it -/
  | short (name : Char) (rest : List Char)

def Argument.ofString (s : String) : Argument :=
  match s.toList with
  | ['-', '-'] => .separator
  | '-' :: '-' :: rest =>
    match Text.splitFirst '=' rest with
    | some (name, value) => .long (String.ofList name) (some (String.ofList value))
    | none => .long (String.ofList rest) none
  | '-' :: c :: rest => .short c rest
  | _ => .word

def Argument.isWord (a : Argument) : Bool :=
  match a with
  | word => true
  | _ => false

/-- The value of an option: the joined one, else the next argument if it is a word. -/
def takeValue (joined : Option String) (args : List String) : Except Stop (String × List String) :=
  match joined, args with
  | some value, args => .ok (value, args)
  | none, value :: rest =>
    if (Argument.ofString value).isWord then .ok (value, rest) else .error .usage
  | none, [] => .error .usage

def hexDigitValue? (c : Char) : Option Nat :=
  if c.isDigit then some (c.toNat - '0'.toNat)
  else if 'a' ≤ c.toLower ∧ c.toLower ≤ 'f' then some (c.toLower.toNat - 'a'.toNat + 10)
  else none

/-- The number written by hexadecimal digits. -/
def hexadecimal? (cs : List Char) : Option Nat :=
  if cs.isEmpty then none
  else (cs.mapM hexDigitValue?).map (Text.valueIn 16)

def dropPlus : List Char → List Char
  | '+' :: cs => cs
  | cs => cs

/-- A control opcode: decimal, or hexadecimal after `0x`. -/
def opcode? (s : String) : Option UInt8 :=
  let n :=
    match s.toList with
    | '0' :: 'x' :: cs | '0' :: 'X' :: cs => hexadecimal? (dropPlus cs)
    | cs => Text.signedDecimal? cs
  n.bind fun n => if n < 256 then some (UInt8.ofNat n) else none

/-! ## Subcommands -/

/-- Nothing may be given twice. -/
def setOnce {α : Type} (old : Option α) (value : α) : Except Stop (Option α) :=
  match old with
  | none => .ok (some value)
  | some _ => .error .usage

/-- Arguments after which only their end may come. -/
def finish {α : Type} (result : α) (args : List String) : Except Stop α :=
  if args.isEmpty then .ok result else .error .usage

/-- A command without options of its own. -/
def parseRun : List String → Except Stop Unit
  | [] => .ok ()
  | arg :: rest =>
    match Argument.ofString arg with
    | .separator => finish () rest
    | .long "help" none | .short 'h' _ => .error (.text Help.run)
    | _ => .error .usage

def parseConfig (shown : Bool) : List String → Except Stop Bool
  | [] => .ok shown
  | arg :: rest =>
    match Argument.ofString arg with
    | .separator => finish shown rest
    | .long "help" none | .short 'h' _ => .error (.text Help.config)
    | .long "show" none => if shown then .error .usage else parseConfig true rest
    | _ => .error .usage

/-- Reads the options of `provision`; each step consumes an argument, so `fuel` is their number. -/
def parseProvision (p : Provision) : Nat → List String → Except Stop Provision
  | 0, args => finish p args
  | _, [] => .ok p
  | fuel + 1, arg :: rest =>
    match Argument.ofString arg with
    | .separator => finish p rest
    | .long "help" none | .short 'h' _ => .error (.text Help.provision)
    | .long "credentials" joined => do
      let (value, rest) ← takeValue joined rest
      let credentials ← setOnce p.credentials value
      parseProvision { p with credentials } fuel rest
    | .long "broker" joined => do
      let (value, rest) ← takeValue joined rest
      let endpoint ← setOnce p.endpoint value
      parseProvision { p with endpoint } fuel rest
    | .long "control" joined => do
      let (value, rest) ← takeValue joined rest
      match opcode? value with
      | some b => parseProvision { p with controls := p.controls ++ [b] } fuel rest
      | none => .error .usage
    | .long "status" none =>
      if p.showStatus then .error .usage
      else parseProvision { p with showStatus := true } fuel rest
    | _ => .error .usage

/-- The help that `help` with these words asks for. -/
def helpFor (settingsPath : Option String) : List String → Stop
  | [] => .text (Help.main settingsPath)
  | ["run"] => .text Help.run
  | ["provision"] => .text Help.provision
  | ["config"] => .text Help.config
  | ["help"] => .text Help.help
  | _ => .usage

def parseCommand (settingsPath : Option String) (name : String) (args : List String) :
    Except Stop Command :=
  match name with
  | "run" => (parseRun args).map fun _ => .run
  | "provision" => (parseProvision {} args.length args).map .provision
  | "config" => (parseConfig false args).map .config
  | "help" => .error (helpFor settingsPath args)
  | _ => .error .usage

/-! ## The whole line -/

/-- A path is not empty. -/
def checkPath (path : String) : Except Stop String :=
  if path.isEmpty then .error .usage else .ok path

/-- What the options in front of the command say about the settings. A value that is an argument of its
own is held back unchecked. -/
structure Choice where
  path : Option String := none
  held : Option String := none
  deriving DecidableEq, Repr

def Choice.take (path : Option String) (value : String) : Except Stop (Option String) := do
  setOnce path (← checkPath value)

/-- Checks the value that is held back. -/
def Choice.settle (c : Choice) : Except Stop (Option String) :=
  match c.held with
  | none => .ok c.path
  | some value => take c.path value

/-- Reads the options in front of the command, then the command. A value that is held back is checked when
the next option is met, or after the command; so a command that answers by itself comes first. -/
def parseFrom (environment : Environment) (c : Choice) : Nat → List String → Except Stop Invocation
  | 0, _ | _, [] => .error .usage
  | fuel + 1, arg :: rest =>
    let answer (s : String) : Except Stop Invocation := do
      let _ ← c.settle
      throw (.text s)
    let choose (joined : Option String) : Except Stop Invocation := do
      let path ← c.settle
      let (value, rest) ← takeValue joined rest
      if joined.isSome then
        let path ← Choice.take path value
        parseFrom environment { path } fuel rest
      else parseFrom environment { path, held := some value } fuel rest
    match Argument.ofString arg with
    | .word => do
      let command ← parseCommand environment.settingsPath arg rest
      return { settingsPath := ← c.settle, command }
    | .long "help" none | .short 'h' _ => answer (Help.main environment.settingsPath)
    | .long "version" none | .short 'V' _ => answer Help.version
    | .long "config" joined => choose joined
    | .short 'c' [] => choose none
    | .short 'c' ('=' :: value) | .short 'c' value => choose (some (String.ofList value))
    | _ => .error .usage

/-- Reads the arguments. Where they name no settings, the environment may. -/
def parse (environment : Environment) (args : List String) : Except Stop Invocation := do
  let i ← parseFrom environment {} args.length args
  match i.settingsPath, environment.settingsPath with
  | none, some path => return { i with settingsPath := some (← checkPath path) }
  | _, _ => return i

end Telemetry.CommandLine
