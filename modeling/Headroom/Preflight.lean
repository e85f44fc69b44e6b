import Headroom.CommandLine.Request
import Headroom.Journal.Logger
import Headroom.Probe.Survey
import Headroom.Settings.Source

/-!
# Preflight checks

A preflight check takes its settings from their sources, finds out how to reach
the cluster, and surveys nodes.  It passes when every node of its list was
checked and has enough space; failures of the survey that are accounted for are
recorded, and then it does not pass.

What happens in a check is recorded by the logger of the application, which is
opened as soon as the settings are known.
-/

namespace Headroom
namespace Preflight

open Cluster Probe

/-- What a preflight check is asked. -/
structure Question where
  nodes : List String
  reserved : Option Reservation
  /-- The level of the logger, if one is chosen. -/
  level : Option LevelChoice
deriving DecidableEq, Repr

/-- The level of the logger when nothing is said about it. -/
def defaultLevel : LevelChoice := .named .info

/-- The reservation that a command line asks for. -/
def reservationOf : CommandLine.Said Int → Reservation
  | .value amount => .bytes amount
  | .nothing => .unstated

/-- The question that a command line asks, unless it leaves open at which level. -/
def Question.ofRequest? (request : CommandLine.Request) : Option Question :=
  match request.level with
  | .nothing => none
  | .value level =>
    some {
      nodes := request.nodes
      reserved := request.reserved.map reservationOf
      level := some (.named level) }

/-- Where it may be said how to reach the cluster. -/
inductive ConfigurationSource
  | inCluster
  /-- A file, the usual one if no path is given. -/
  | file (path : Option String)
deriving DecidableEq, Repr

/-- What is wrong with the configuration inside a cluster and with the one in a file. -/
structure ConfigurationFaults where
  inCluster : Option String
  file : Option String
deriving DecidableEq, Repr

/-- Nothing is wrong with any configuration. -/
def ConfigurationFaults.none : ConfigurationFaults :=
  { inCluster := .none, file := .none }

/-- The sources that are tried one after the other, and what is wrong with the last one. -/
def configure
    (settings : Settings)
    (faults : ConfigurationFaults) :
    List ConfigurationSource × Option String :=
  match settings.clusterConfiguration, faults.inCluster with
  | some path, _ => ([.file (some path)], faults.file)
  | none, none => ([.inCluster], none)
  | none, some _ => ([.inCluster, .file none], faults.file)

/-- A number of seconds as a length of time. -/
def duration (seconds : Binary64) : Duration :=
  match seconds.toRat? with
  | some amount => .seconds amount
  | none => .unbounded

/-- The arguments of the checker that settings describe. -/
def checkerArguments
    (limits : Yaml.Limits)
    (settings : Settings) : Arguments :=
  { hasLogger := true
    limits
    image := some settings.probeImage
    sourceClass := settings.sourceClass
    destinationClass := settings.destinationClass
    namespaceName := settings.probeNamespace
    mountPath := settings.mountPath
    pollInterval := duration settings.pollInterval
    deletionTimeout := duration settings.deletionTimeout
    jobTimeout := duration settings.jobTimeout }

/-- Whether a node of a survey passes; if it does not, that is recorded. -/
def assessNode
    (findings : Findings)
    (node : String) : Action Bool := do
  match findings.find? node with
  | none =>
    Action.note .error ("Node " ++ node ++ " has not been checked")
    return false
  | some verdict =>
    if verdict.hasSpace then return true
    Action.note .error
      ("Node " ++ node ++ " has only " ++ toString verdict.free ++ " bytes available")
    return false

/-- Whether all nodes of a survey pass, each one that does not being recorded. -/
def assess (findings : Findings) : List String → Action Bool
  | [] => return true
  | node :: others => do
    let passes ← assessNode findings node
    let othersPass ← assess findings others
    return passes && othersPass

/-- Whether a survey by a checker passes; failures that are accounted for are recorded. -/
def check
    (arguments : Arguments)
    (nodes : List String)
    (reserved : Option Reservation)
    (atOnce : Bool) : Action Bool := do
  match Checker.ofArguments arguments with
  | .error cause =>
    Action.note .error cause.message
    return false
  | .ok checker =>
    match ← Action.attempt (checker.survey nodes reserved atOnce) with
    | .ok findings => assess findings nodes
    | .error (.check error _) =>
      Action.note .error error.message
      return false
    | .error failure => throw failure

/-- Why a preflight check has no answer. -/
inductive Fault
  | settings (issues : List Schema.Issue)
  | configuration (text : String)
  | failure (failure : Failure)
deriving DecidableEq, Repr

/-- What is told about a check that has no answer. -/
def Fault.text : Fault → String
  | .settings issues => String.intercalate "\n" (issues.map Schema.Issue.text)
  | .configuration text => text
  | .failure (.check error _) => error.message
  | .failure (.foreign (.crashed text)) => text
  | .failure (.foreign .incomparable) => "no amount is given for the reservation"
  | .failure (.foreign _) => "the cluster holds a value that cannot be read"
  | .failure (.impasse .endless) => "the check would never end"
  | .failure (.impasse .overlongPause) => "timestamp out of range for platform time_t"

/-- How a preflight check went. -/
structure Report where
  answer : Except Fault Bool
  /-- The configurations that were tried. -/
  tried : List ConfigurationSource
  world : World
  lines : List Line

/-- The name of the level of a record. -/
def levelName : Severity → LevelName
  | .debug => .debug
  | .info => .info
  | .warning => .warning
  | .error => .error

/-- The records of a run as they are given to a logger. -/
def levelled (records : List Record) : List (LevelName × Text) :=
  records.map fun record => (levelName record.severity, record.message)

/-- The name of the logger of the reader of assignments. -/
def readerName : String := "dotenv.main"

/-- The warning of a line that could not be read. -/
def unreadableText (line : Nat) : String :=
  "python-dotenv could not parse statement starting at line " ++ toString line

/-- The journal once the sources are read, and the lines that are written until then. -/
def readSources (sources : Sources) : Journal × List Line :=
  Journal.empty.writeAll readerName
    (sources.assignmentFile.unreadable.map fun line =>
      (.warning, Text.ofString (unreadableText line)))

/-- A preflight check in a world. -/
def run
    (limits : Yaml.Limits)
    (sources : Sources)
    (faults : ConfigurationFaults)
    (question : Question)
    (world : World) : Report :=
  let (journal, warnings) := readSources sources
  match Settings.ofSources sources with
  | .error issues =>
    { answer := .error (.settings issues), tried := [], world, lines := warnings }
  | .ok settings =>
    let (journal, complaints) :=
      journal.openLogger settings.applicationName question.level
    match configure settings faults with
    | (tried, some text) =>
      { answer := .error (.configuration text), tried, world, lines := warnings ++ complaints }
    | (tried, none) =>
      let (outcome, after) :=
        (check (checkerArguments limits settings) question.nodes question.reserved
          settings.atOnce).run world
      let records := after.records.drop world.records.length
      { answer := outcome.mapError .failure
        tried
        world := after
        lines := warnings ++ complaints ++
          (journal.writeAll settings.applicationName (levelled records)).2 }

/-- The status with which a program ends whose check has an answer. -/
def exitStatus (passes : Bool) : Nat :=
  if passes then 0 else 1

/-- The status with which a program ends that is asked for no check. -/
def refusalStatus : CommandLine.Refusal → Nat
  | .help => 0
  | .misuse _ => 2

end Preflight
end Headroom
