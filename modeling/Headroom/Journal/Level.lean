import Headroom.Binary64.Shortest
import Headroom.Text.CodePoint
import Headroom.Text.Numeral

/-!
# Levels

The level of a record says how important it is, a higher level being more
important.  Some levels have names, and two of them have two.

A level is chosen by its number, by its name in capital letters, or by a truth
value, which counts as one or zero and keeps its own spelling.

A level without a name is shown by its number, unless that is too long to be written
out.
-/

namespace Headroom

/-- The names of levels. -/
inductive LevelName
  | critical
  | fatal
  | error
  | warn
  | warning
  | info
  | debug
  | notset
deriving DecidableEq, Repr

namespace LevelName

/-- The names of levels, in the order in which they are listed. -/
def all : List LevelName :=
  [.critical, .fatal, .error, .warn, .warning, .info, .debug, .notset]

/-- The names by which levels are shown. -/
def preferred : List LevelName :=
  [.critical, .error, .warning, .info, .debug, .notset]

/-- A name in small letters. -/
def word : LevelName → String
  | .critical => "critical"
  | .fatal => "fatal"
  | .error => "error"
  | .warn => "warn"
  | .warning => "warning"
  | .info => "info"
  | .debug => "debug"
  | .notset => "notset"

/-- A name in capital letters. -/
def title : LevelName → String
  | .critical => "CRITICAL"
  | .fatal => "FATAL"
  | .error => "ERROR"
  | .warn => "WARN"
  | .warning => "WARNING"
  | .info => "INFO"
  | .debug => "DEBUG"
  | .notset => "NOTSET"

/-- The number of a level. -/
def number : LevelName → Int
  | .critical | .fatal => 50
  | .error => 40
  | .warn | .warning => 30
  | .info => 20
  | .debug => 10
  | .notset => 0

/-- The level with a name in small letters. -/
def ofWord? (word : String) : Option LevelName :=
  all.find? fun name => name.word == word

/-- The level with a name in capital letters. -/
def ofTitle? (title : String) : Option LevelName :=
  all.find? fun name => name.title == title

end LevelName

/-- The level of a logger or of a record. -/
inductive Level
  | number (value : Int)
  | truth (value : Bool)
deriving DecidableEq, Repr

namespace Level

/-- The level with a name. -/
def named (name : LevelName) : Level :=
  .number name.number

/-- The number that a level counts as. -/
def value : Level → Int
  | .number value => value
  | .truth value => if value then 1 else 0

/-- A level written out, if its number is not too long for that. -/
def text? : Level → Option String
  | .number value => Numeral.text? value
  | .truth value => some (if value then "True" else "False")

/-- The name of a level, or one made from its number if that can be written out. -/
def title? (level : Level) : Option String :=
  match LevelName.preferred.find? fun name => name.number == level.value with
  | some name => some name.title
  | none => level.text?.map ("Level " ++ ·)

@[simp] theorem value_number (value : Int) : (Level.number value).value = value := rfl

/-- A level with a name can be shown. -/
theorem isSome_title?_named (name : LevelName) : (Level.named name).title?.isSome = true := by
  cases name <;> rfl

end Level

/-- What is given as the level of a logger. -/
inductive LevelChoice
  | exact (level : Level)
  | words (text : Text)
  | real (value : Binary64)
deriving DecidableEq, Repr

namespace LevelChoice

/-- The choice of a level by its name. -/
def named (name : LevelName) : LevelChoice :=
  .words (Text.ofString name.title)

/-- The level that is chosen, or else the choice written out, which is no level. -/
def level : LevelChoice → Except Text Level
  | .exact level => .ok level
  | .words text =>
    ((text.chars?.map String.ofList).bind LevelName.ofTitle?).elim (.error text)
      fun name => .ok (.named name)
  | .real value => .error (Text.ofChars value.text)

end LevelChoice
end Headroom
