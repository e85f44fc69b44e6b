import Headroom.Environment.Expansion
import Headroom.Settings.Basic
import Headroom.Text.LowerCase

/-!
# Sources of settings

Settings come from three sources: arguments of the caller, the environment, and
a file of assignments.  The first source that has a value for a setting wins,
and names that differ only in case are the same name.

The environment may hold anything besides.  An argument that is no setting is an
issue, and so is an assignment of a value that is not empty to a name that is
none.
-/

namespace Headroom

/-- Where settings come from. -/
structure Sources where
  arguments : Schema.Fields
  environment : Environment
  /-- The content of the file of assignments, if there is one. -/
  file : Option String
deriving DecidableEq, Repr

namespace Sources

open Schema

/-- A name in small letters. -/
def smallName (name : String) : String :=
  String.ofList (lowerCase name.toList)

/-- Whether a key is a spelling of a name. -/
def isSpelling (name key : String) : Bool :=
  smallName key == smallName name

/-- Whether a key is a spelling of the name of some setting. -/
def isSetting (key : String) : Bool :=
  Settings.names.any (isSpelling · key)

/-- The argument for a setting, one under its very name being preferred. -/
def argument?
    (sources : Sources)
    (name : String) :
    Option Datum :=
  (sources.arguments.find? name).or
    ((List.find? (fun field => isSpelling name field.1) sources.arguments).map (·.2))

/-- The value of the environment for a setting, the last one if there are several spellings. -/
def surrounding?
    (sources : Sources)
    (name : String) :
    Option String :=
  (sources.environment.reverse.find? fun entry => isSpelling name entry.1).map (·.2)

/-- What the file holds, which is nothing if there is none. -/
def assignmentFile (sources : Sources) : AssignmentFile :=
  (sources.file.map fun content => AssignmentFile.ofText content.toList).getD .empty

/-- The values of the file by their names in small letters. -/
def fileValues (sources : Sources) : FileValues :=
  (FileValues.ofFile sources.environment sources.assignmentFile).foldl
    (fun values entry => values.put (smallName entry.1) entry.2) []

/-- The value of the file for a setting. -/
def assigned?
    (sources : Sources)
    (name : String) :
    Option String :=
  (sources.fileValues.find? (smallName name)).join

/-- The datum for a setting, if a source has one. -/
def datum?
    (sources : Sources)
    (name : String) :
    Option Datum :=
  (sources.argument? name).or
    (((sources.surrounding? name).or (sources.assigned? name)).map fun value =>
      .text (Text.ofString value))

/-- The record that the sources make up. -/
def fields (sources : Sources) : Fields :=
  Settings.names.filterMap fun name => (sources.datum? name).map fun datum => (name, datum)

/-- The names in the file that are no settings and have a value. -/
def unexpectedAssignments (sources : Sources) : List String :=
  (sources.fileValues.filter fun entry =>
    !isSetting entry.1 && entry.2.any (· != "")).map (·.1)

/-- The names of arguments that are no settings. -/
def unexpectedArguments (sources : Sources) : List String :=
  (sources.arguments.map (·.1)).filter fun name => !isSetting name

/-- The issues of names that are no settings. -/
def unexpected (sources : Sources) : List Issue :=
  (sources.unexpectedAssignments ++ sources.unexpectedArguments).eraseDups.map fun name =>
    ⟨[.field name], .unexpectedField⟩

end Sources

/-- The settings that sources describe. -/
def Settings.ofSources (sources : Sources) : Schema.Checked Settings :=
  (Settings.ofFields sources.fields).provided sources.unexpected

end Headroom
