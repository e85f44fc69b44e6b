import Headroom.CommandLine.Switch
import Headroom.Journal.Level

/-!
# Usage

The usage of a program lists what may stand on its command line.  The switches
are optional, and at least one node is named.

Help is the usage, followed by what the program is for and what each argument
means.
-/

namespace Headroom
namespace CommandLine

/-- What a value of a switch is called in the usage. -/
def Switch.valueText : Switch → String
  | .help => ""
  | .logLevel =>
    " \x7b" ++ String.intercalate "," (LevelName.all.map LevelName.word) ++ "\x7d"
  | .reserved => " RESERVED"

/-- A switch as the usage shows it. -/
def Switch.usageText (switch : Switch) : String :=
  "[-" ++ String.ofList [switch.letter] ++ switch.valueText ++ "]"

/-- What a switch is for. -/
def Switch.purpose : Switch → String
  | .help => "show this help message and exit"
  | .logLevel => "Provide logging level. Example --loglevel debug, default=warning"
  | .reserved =>
    "Bytes that must be free on each node. Defaults to the space used by the volumes of " ++
      "the source storage class."

/-- The usage of a program. -/
def usage (program : String) : String :=
  String.intercalate " "
    (["usage:", program] ++ Switch.all.map Switch.usageText ++ ["nodes", "[nodes ...]"])

/-- The help of a program. -/
def help (program : String) : String :=
  String.intercalate "\n"
    ([usage program, "",
      "Verify the nodes have enough free space to receive the volumes migrated to an " ++
        "OpenEBS local volume storage class.",
      "", "positional arguments:", "  nodes  Names of the nodes to check.", "", "options:"] ++
      Switch.all.map fun switch =>
        "  -" ++ String.ofList [switch.letter] ++ ", " ++ switch.longForm ++ switch.valueText ++
          "  " ++ switch.purpose)

end CommandLine
end Headroom
