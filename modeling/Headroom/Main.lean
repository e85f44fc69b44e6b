import Headroom.CommandLine.Usage
import Headroom.Preflight

/-!
# The program

The program checks the nodes named on its command line and ends with status zero
when all of them pass.  Settings are taken from the environment and from a file
of assignments in the working directory.

The cluster that is asked is an empty and healthy one.
-/

namespace Headroom

/-- The name of the program. -/
def programName : String := "cluster-space-check"

/-- The name of the file of assignments. -/
def assignmentFile : String := ".env"

/-- The values of the environment for the settings. -/
def readEnvironment : IO Environment := do
  let mut environment := []
  for name in Settings.names do
    if let some value ← IO.getEnv name then
      environment := environment ++ [(name, value)]
  return environment

/-- The content of the file of assignments, if it can be read. -/
def readAssignments : IO (Option String) := do
  try
    return some (← IO.FS.readFile assignmentFile)
  catch _ =>
    return none

/-- A line goes to its channel. -/
def writeLine (line : Line) : IO Unit :=
  match line.channel with
  | .output => IO.println line.text.display
  | .errors => IO.eprintln line.text.display

/-- The check that answers a question. -/
def runQuestion (question : Preflight.Question) : IO UInt32 := do
  let sources : Sources :=
    { arguments := [], environment := ← readEnvironment, file := ← readAssignments }
  let report :=
    Preflight.run .usual sources .none question (.start .unprepared)
  report.lines.forM writeLine
  match report.answer with
  | .ok passes => return (Preflight.exitStatus passes).toUInt32
  | .error fault =>
    IO.eprintln fault.text
    return 1

/-- The check that a command line asks for. -/
def runRequest (request : CommandLine.Request) : IO UInt32 :=
  match Preflight.Question.ofRequest? request with
  | some question => runQuestion question
  | none => do
    IO.eprintln "no level is given for the log"
    return 1

end Headroom

/-- The program: a command line is answered with help, with a complaint or with a check. -/
def main (arguments : List String) : IO UInt32 := do
  match Headroom.CommandLine.Request.ofArguments arguments with
  | .ok request => Headroom.runRequest request
  | .error .help =>
    IO.println (Headroom.CommandLine.help Headroom.programName)
    return (Headroom.Preflight.refusalStatus .help).toUInt32
  | .error (.misuse misuse) =>
    IO.eprintln (Headroom.CommandLine.usage Headroom.programName)
    IO.eprintln (Headroom.programName ++ ": error: " ++ misuse.message)
    return (Headroom.Preflight.refusalStatus (.misuse misuse)).toUInt32
