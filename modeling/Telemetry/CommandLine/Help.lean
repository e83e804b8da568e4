import Telemetry.Text.Terminal

/-!
# Help

The texts that the command line answers by itself, for a terminal.
-/

namespace Telemetry.CommandLine.Help

open Text.Terminal

def version : String := "uplinkd 0.1.0\n"

/-- The column where the descriptions of the main options begin. -/
def column : Nat := 23

/-- Lines of a description after the first begin in the column. -/
def indented (s : String) : String :=
  String.ofList <| s.toList.flatMap fun c =>
    if c = '\n' then c :: List.replicate column ' ' else [c]

/-- The help of the program. It shows the value of the variable that stands in for `--config`. -/
def main (settingsPath : Option String) : String :=
  String.join
    [ "Deliver telemetry records to a broker over an unreliable link\n\n",
      heading "Usage:", " ", bold "uplinkd", " [OPTIONS] <COMMAND>\n\n",
      heading "Commands:", "\n",
      "  ", bold "run", "        ",
      "Run the periodic driver, publishing JSON records read from stdin\n",
      "  ", bold "provision", "  Apply provisioning writes to the persistent store\n",
      "  ", bold "config", "     Validate configuration\n",
      "  ", bold "help", "       ",
      "Print this message or the help of the given subcommand(s)\n\n",
      heading "Options:", "\n",
      "  ", bold "-c", ", ", bold "--config", " <FILE>  ",
      indented ("Configuration file path [env: UPLINK_CONFIG=" ++ settingsPath.getD "" ++ "]"), "\n",
      "  ", bold "-h", ", ", bold "--help", "           Print help\n",
      "  ", bold "-V", ", ", bold "--version", "        Print version\n" ]

def run : String :=
  String.join
    [ "Run the periodic driver, publishing JSON records read from stdin\n\n",
      heading "Usage:", " ", bold "uplinkd run", "\n\n",
      heading "Options:", "\n",
      "  ", bold "-h", ", ", bold "--help", "  Print help\n" ]

def provision : String :=
  String.join
    [ "Apply provisioning writes to the persistent store\n\n",
      heading "Usage:", " ", bold "uplinkd provision", " [OPTIONS]\n\n",
      heading "Options:", "\n",
      "      ", bold "--credentials", " <CREDENTIALS>  ",
      "Network credentials as \x60identity|secret\x60\n",
      "      ", bold "--broker", " <BROKER>            ",
      "Broker settings as \x60host:port|username|password\x60\n",
      "      ", bold "--control", " <CONTROL>          ",
      "Control opcode, decimal or 0x-prefixed hex (repeatable)\n",
      "      ", bold "--status", "                     Print the status blob afterwards\n",
      "  ", bold "-h", ", ", bold "--help", "                       Print help\n" ]

def config : String :=
  String.join
    [ "Validate configuration\n\n",
      heading "Usage:", " ", bold "uplinkd config", " [OPTIONS]\n\n",
      heading "Options:", "\n",
      "      ", bold "--show", "  Show effective configuration\n",
      "  ", bold "-h", ", ", bold "--help", "  Print help\n" ]

def help : String :=
  String.join
    [ "Print this message or the help of the given subcommand(s)\n\n",
      heading "Usage:", " ", bold "uplinkd help", " [COMMAND]...\n\n",
      heading "Arguments:", "\n",
      "  [COMMAND]...  Print help for the subcommand(s)\n" ]

end Telemetry.CommandLine.Help
