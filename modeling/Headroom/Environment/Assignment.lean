import Headroom.Text.Blank

/-!
# Assignments

A file of assignments holds one assignment on a line: a name and, after an equals
sign, a value.  The word `export` may stand before a name, and a name in single
quotes may hold any other character.  A name alone is an assignment of nothing.

A value between quotes may hold line ends and escapes.  Any other value goes to
the end of the line or to the first `#` that follows a blank.  What cannot be
read is passed over up to the end of its line, and the line on which it begins is
kept.
-/

namespace Headroom

/-- A name and the value that is assigned to it, if there is one. -/
structure Assignment where
  name : List Char
  value : Option (List Char)
deriving DecidableEq, Repr

namespace Assignment

/-- What was read and what follows it, or the text at which the reading stopped. -/
abbrev Reading (α : Type) := Except (List Char) (α × List Char)

/-- Whether a character separates words within a line. -/
def isSpacing (char : Char) : Bool :=
  isBlank char && char != '\n' && char != '\r'

/-- A text in which every line ends in a line feed. -/
def withLineFeeds : List Char → List Char
  | '\r' :: '\n' :: rest => '\n' :: withLineFeeds rest
  | '\r' :: rest => '\n' :: withLineFeeds rest
  | char :: rest => char :: withLineFeeds rest
  | [] => []

/-- What follows the end of the current line. -/
def afterLine (text : List Char) : List Char :=
  (text.dropWhile (· != '\n')).tail

/-- The word that may stand before a name. -/
def exportWord : List Char := "export".toList

/-- A statement without the word that may stand before its name. -/
def withoutExport (text : List Char) : List Char :=
  let rest := text.drop exportWord.length
  if exportWord.isPrefixOf text && (rest.head?.map isSpacing).getD false then
    rest.dropWhile isSpacing
  else text

/-- Whether a character can stand in a name without quotes. -/
def isNameChar (char : Char) : Bool :=
  char != '=' && char != '#' && !isBlank char

/-- The name at the beginning of a statement; a comment has none. -/
def readName : List Char → Reading (Option (List Char))
  | '#' :: rest => .ok (none, '#' :: rest)
  | '\'' :: rest =>
    match rest.takeWhile (· != '\''), rest.dropWhile (· != '\'') with
    | first :: others, '\'' :: after => .ok (some (first :: others), after)
    | _, _ => .error ('\'' :: rest)
  | text =>
    match text.takeWhile isNameChar with
    | [] => .error text
    | name => .ok (some name, text.dropWhile isNameChar)

/-- The text before a closing quote, and what follows that.  A backslash takes the next
character from its meaning; a quote after one closes only if no other quote does. -/
def splitAtQuote
    (quote : Char)
    (escaped : Bool) :
    List Char → Option (List Char × List Char)
  | [] => none
  | char :: rest =>
    if char = quote then
      match if escaped then splitAtQuote quote false rest else none with
      | some (inner, after) => some (char :: inner, after)
      | none => some ([], rest)
    else
      (splitAtQuote quote (char == '\\' && !escaped) rest).map fun (inner, after) =>
        (char :: inner, after)

/-- The characters that escapes stand for between single quotes. -/
def singleQuotedEscape? : Char → Option Char
  | '\\' => some '\\'
  | '\'' => some '\''
  | _ => none

/-- The characters that escapes stand for between double quotes. -/
def doubleQuotedEscape? : Char → Option Char
  | '\\' => some '\\'
  | '\'' => some '\''
  | '"' => some '"'
  | 'a' => some '\x07'
  | 'b' => some '\x08'
  | 'f' => some '\x0c'
  | 'n' => some '\n'
  | 'r' => some '\r'
  | 't' => some '\t'
  | 'v' => some '\x0b'
  | _ => none

/-- A quoted text whose escapes are replaced; a backslash before anything else is kept. -/
def unescape (escape? : Char → Option Char) : List Char → List Char
  | '\\' :: char :: rest =>
    match escape? char with
    | some meant => meant :: unescape escape? rest
    | none => '\\' :: unescape escape? (char :: rest)
  | char :: rest => char :: unescape escape? rest
  | [] => []

/-- A line without its comment, which begins at blanks before a `#`. -/
def withoutComment : List Char → List Char
  | [] => []
  | char :: rest =>
    if isBlank char && (rest.dropWhile isBlank).head? == some '#' then []
    else char :: withoutComment rest

/-- The value between quotes that a text begins with. -/
def readQuoted
    (quote : Char)
    (escape? : Char → Option Char)
    (text : List Char) :
    Reading (List Char) :=
  match splitAtQuote quote false text.tail with
  | some (inner, after) => .ok (unescape escape? inner, after)
  | none => .error text

/-- The value that follows an equals sign, blanks before it counting for a comment only. -/
def readValue (text : List Char) : Reading (List Char) :=
  let body := text.dropWhile isSpacing
  match body.head? with
  | some '\'' => readQuoted '\'' singleQuotedEscape? body
  | some '"' => readQuoted '"' doubleQuotedEscape? body
  | _ =>
    .ok (trim isBlank (withoutComment (text.takeWhile (· != '\n'))), text.dropWhile (· != '\n'))

/-- The value after an equals sign, if there is one. -/
def readOptionalValue (text : List Char) : Reading (Option (List Char)) :=
  match text with
  | '=' :: rest => (readValue rest).map fun (value, after) => (some value, after)
  | _ => .ok (none, text)

/-- What follows a statement, at whose end nothing but a comment may stand. -/
def afterStatement (text : List Char) : Except (List Char) (List Char) :=
  let rest := text.dropWhile isSpacing
  let rest := if rest.head? = some '#' then rest.dropWhile (· != '\n') else rest
  match rest with
  | [] => .ok []
  | '\n' :: others => .ok others
  | _ => .error rest

/-- The statement at the beginning of a text, and what follows it. -/
def readStatement (text : List Char) : Reading (Option Assignment) :=
  match readName (withoutExport text) with
  | .error stopped => .error stopped
  | .ok (name, rest) =>
    match readOptionalValue (rest.dropWhile isSpacing) with
    | .error stopped => .error stopped
    | .ok (value, rest) =>
      (afterStatement rest).map fun rest => (name.map fun name => { name, value }, rest)

end Assignment

/-- What a file of assignments holds. -/
structure AssignmentFile where
  /-- The assignments, in the order of their lines. -/
  assignments : List Assignment
  /-- The numbers of the lines on which statements begin that could not be read. -/
  unreadable : List Nat
deriving DecidableEq, Repr

namespace AssignmentFile

open Assignment

/-- A file without statements. -/
def empty : AssignmentFile :=
  { assignments := [], unreadable := [] }

/-- A file with one more statement at its beginning, on a line. -/
def cons
    (line : Nat)
    (statement : Option (Option Assignment))
    (file : AssignmentFile) : AssignmentFile :=
  match statement with
  | none => { file with unreadable := line :: file.unreadable }
  | some found => { file with assignments := found.toList ++ file.assignments }

@[simp] theorem assignments_cons_none (line : Nat) (file : AssignmentFile) :
    (file.cons line none).assignments = file.assignments := rfl

@[simp] theorem assignments_cons_some
    (line : Nat)
    (found : Option Assignment)
    (file : AssignmentFile) :
    (file.cons line (some found)).assignments = found.toList ++ file.assignments := rfl

/-- The file that a text holds from a line on, whose lines end in line feeds.  A statement
begins where the one before it ended, blank lines included. -/
def ofLines
    (line : Nat)
    (text : List Char) : AssignmentFile :=
  match text.dropWhile isBlank with
  | [] => empty
  | body =>
    let (statement, rest) :=
      match readStatement body with
      | .ok (found, rest) => (some found, rest)
      | .error stopped => (none, afterLine stopped)
    let others :=
      if rest.length < text.length then
        ofLines (line + (text.count '\n' - rest.count '\n')) rest
      else empty
    others.cons line statement
termination_by text.length

/-- The mark that may stand at the beginning of a text. -/
def byteOrderMark : Char := '\uFEFF'

/-- The file that a text holds. -/
def ofText (text : List Char) : AssignmentFile :=
  ofLines 1 (withLineFeeds (if text.head? = some byteOrderMark then text.tail else text))

end AssignmentFile
end Headroom
