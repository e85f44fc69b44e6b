import Headroom.Journal.Level

/-!
# Loggers

Records are given to loggers, which have dotted names.  A logger lies under the
known one whose name is the longest beginning of its own up to a dot, and if
there is none it lies under the root logger.  A logger without a level of its
own, that is with level zero, takes the level of the nearest one above it that
has one.

A record that is important enough is written once for each open logger among
the one to which it is given and those above it, the nearest one first.  If none
of them is open, the bare message of a record from warnings on goes to the
errors.

Whether a logger takes records of a level is found out once, and is kept until
the level of some logger is chosen anew.  A record that is taken can be made only if
its level can be shown.
-/

namespace Headroom

/-- A logger. -/
structure Logger where
  name : String
  level : Level
  /-- Whether the records that reach the logger are written. -/
  isOpen : Bool
  /-- The name of the logger under which it lies, if that is not the root logger. -/
  upper : Option String
deriving DecidableEq, Repr

/-- A logger that nothing was said about. -/
def Logger.fresh (name : String) : Logger :=
  { name, level := .named .notset, isOpen := false, upper := none }

/-- The name of the root logger. -/
def rootName : String := "root"

/-- The root logger at first. -/
def Logger.root : Logger :=
  { Logger.fresh rootName with level := .named .warning }

/-- The two streams to which records are written. -/
inductive Channel
  | output
  | errors
deriving DecidableEq, Repr

/-- Where a record of a level goes: up to warnings to the output, from errors on to the errors. -/
def Channel.ofLevel? (level : Int) : Option Channel :=
  if level ≤ LevelName.warning.number then some .output
  else if LevelName.error.number ≤ level then some .errors
  else none

/-- A record as it is written. -/
structure Line where
  channel : Channel
  text : Text
deriving DecidableEq, Repr

/-- Whether a logger takes records of a level. -/
structure Decision where
  name : String
  level : Int
  takes : Bool
deriving DecidableEq, Repr

/-- The loggers that are known. -/
structure Journal where
  root : Logger
  loggers : List Logger
  /-- What was found out since the level of a logger was last chosen. -/
  decisions : List Decision
deriving DecidableEq, Repr

namespace Journal

/-- The journal before any logger is known. -/
def empty : Journal :=
  { root := .root, loggers := [], decisions := [] }

/-- Whether a name is one of the root logger. -/
def isRootName (name : String) : Bool :=
  name == "" || name == rootName

/-- The logger with a name that is none of the root logger. -/
def find?
    (journal : Journal)
    (name : String) :
    Option Logger :=
  journal.loggers.find? fun logger => logger.name == name

/-- The logger with a name. -/
def get
    (journal : Journal)
    (name : String) : Logger :=
  if isRootName name then journal.root else (journal.find? name).getD (.fresh name)

/-- The journal with a logger in the place of the one of its name. -/
def set
    (journal : Journal)
    (logger : Logger) : Journal :=
  if isRootName logger.name then { journal with root := logger }
  else
    { journal with
      loggers := logger :: journal.loggers.filter fun other => other.name != logger.name }

/-- A logger that is put into a journal is found there. -/
@[simp] theorem get_set_self (journal : Journal) (logger : Logger) :
    (journal.set logger).get logger.name = logger := by
  unfold get set
  split
  · rfl
  · simp [find?]

/-- The names that lie above one that is given from its end, the nearest one first.  A dot right
before another that ends a name is passed over, and so is one at the very beginning. -/
def namesAbove (passOver : Bool) : List Char → List String
  | [] => []
  | char :: rest =>
    if char = '.' ∧ passOver = false then
      if rest.isEmpty then [] else String.ofList rest.reverse :: namesAbove true rest
    else namesAbove false rest

/-- The names that lie above a name, the nearest one first. -/
def namesOver (name : String) : List String :=
  namesAbove false name.toList.reverse

/-- A logger once another one is known.  If that has a name above its own it lies under the
other one, unless it lies under a nearer one already; whether it does is judged by the name of
the upper logger, and so the root logger stays nearer than one named by a beginning of its
name. -/
def placeUnder
    (name : String)
    (logger : Logger) : Logger :=
  if (namesOver logger.name).contains name &&
      !name.toList.isPrefixOf (logger.upper.getD rootName).toList then
    { logger with upper := some name }
  else logger

/-- The journal in which a logger is known. -/
def register
    (journal : Journal)
    (name : String) : Journal :=
  if isRootName name || (journal.find? name).isSome then journal
  else
    let upper := (namesOver name).find? fun other => (journal.find? other).isSome
    { journal with
      loggers := { Logger.fresh name with upper } :: journal.loggers.map (placeUnder name) }

/-- A number of loggers from one upwards, and the root logger after them. -/
def upwards
    (journal : Journal) :
    Nat → Option String → List Logger
  | fuel + 1, some name =>
    match journal.find? name with
    | some logger => logger :: journal.upwards fuel logger.upper
    | none => [journal.root]
  | _, _ => [journal.root]

/-- The logger with a name and those above it, the nearest one first. -/
def lineage
    (journal : Journal)
    (name : String) : List Logger :=
  journal.upwards journal.loggers.length (if isRootName name then none else some name)

/-- The level from which on records of a logger are written. -/
def effectiveLevel
    (journal : Journal)
    (name : String) : Int :=
  (((journal.lineage name).map (·.level.value)).find? (· ≠ 0)).getD 0

/-- Whether records of a level are important enough for a logger. -/
def takes
    (journal : Journal)
    (name : String)
    (level : Int) : Bool :=
  0 < level && journal.effectiveLevel name ≤ level

/-- Whether a logger takes records of a level, as was found out before or is found out now. -/
def decision
    (journal : Journal)
    (name : String)
    (level : Int) : Decision :=
  let name := (journal.get name).name
  (journal.decisions.find? fun decision => decision.name == name && decision.level == level).getD
    { name, level, takes := journal.takes name level }

/-- A record written out. -/
def lineText
    (name title : String)
    (message : Text) : Text :=
  Text.ofString (title ++ " - " ++ name ++ " - ") ++ message

/-- The lines of a record that a logger takes, its level being shown by a title. -/
def lines
    (journal : Journal)
    (name title : String)
    (level : Int)
    (message : Text) : List Line :=
  match (journal.lineage name).filter (·.isOpen) with
  | [] => if LevelName.warning.number ≤ level then [{ channel := .errors, text := message }] else []
  | opened =>
    opened.filterMap fun _ =>
      (Channel.ofLevel? level).map fun channel =>
        { channel, text := lineText (journal.get name).name title message }

/-- A record is given to a logger: the journal after that, and the lines that are written.  There
are none, not even an empty list of them, if the record is taken and cannot be made. -/
def write
    (journal : Journal)
    (name : String)
    (level : Level)
    (message : Text) :
    Journal × Option (List Line) :=
  let journal := journal.register name
  let decision := journal.decision name level.value
  ({ journal with decisions := decision :: journal.decisions },
    if decision.takes then
      level.title?.map fun title => journal.lines name title level.value message
    else some [])

/-- A record of a level with a name can always be made. -/
theorem isSome_write_named
    (journal : Journal)
    (name : String)
    (level : LevelName)
    (message : Text) :
    (journal.write name (.named level) message).2.isSome = true := by
  unfold write
  dsimp only
  split
  · rw [Option.isSome_map, Level.isSome_title?_named]
  · rfl

/-- A record of a level with a name is given to a logger. -/
def writeNamed
    (journal : Journal)
    (name : String)
    (level : LevelName)
    (message : Text) :
    Journal × List Line :=
  ((journal.write name (.named level) message).1,
    (journal.write name (.named level) message).2.get
      (journal.isSome_write_named name level message))

/-- Records are given to a logger one after the other. -/
def writeAll
    (journal : Journal)
    (name : String) :
    List (LevelName × Text) → Journal × List Line
  | [] => (journal, [])
  | (level, message) :: others =>
    let (journal, first) := journal.writeNamed name level message
    let (journal, rest) := journal.writeAll name others
    (journal, first ++ rest)

/-- The complaint about a choice that is no level. -/
def complaint (choice : Text) : Text :=
  Text.ofString "Invalid log level: " ++ choice

/-- A logger is opened and gets the chosen level; a choice that is no level is complained of. -/
def openLogger
    (journal : Journal)
    (name : String)
    (choice : Option LevelChoice) :
    Journal × List Line :=
  let journal := journal.register name
  let logger := { journal.get name with isOpen := true }
  match choice.map LevelChoice.level with
  | none => (journal.set logger, [])
  | some (.ok level) => ({ journal.set { logger with level } with decisions := [] }, [])
  | some (.error choice) => (journal.set logger).writeNamed name .error (complaint choice)

end Journal
end Headroom
