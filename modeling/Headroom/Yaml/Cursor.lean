/-!
# Places in a YAML text

A cursor is a place in a text: what is still to be read, how many characters
were read, and the line and the column.  Indentation is a matter of columns,
and a key must be on the line of its colon, so both are kept while reading.

A carriage return and a line feed together end one line; a byte order mark
takes no column.
-/

namespace Headroom
namespace Yaml

/-- Whether a character ends a line. -/
def isBreak (char : Char) : Bool :=
  char == '\r' || char == '\n' || char == '\x85' || char == '\u2028' || char == '\u2029'

/-- Whether a character is a space or ends a line. -/
def isSpaceOrBreak (char : Char) : Bool :=
  char == ' ' || isBreak char

/-- Whether a character is a space or a tab or ends a line. -/
def isBlankOrBreak (char : Char) : Bool :=
  char == '\t' || isSpaceOrBreak char

/-- Whether a character may occur in names of anchors and handles. -/
def isNameChar (char : Char) : Bool :=
  ('0' ≤ char && char ≤ '9') || ('A' ≤ char && char ≤ 'Z') || ('a' ≤ char && char ≤ 'z') ||
    char == '-' || char == '_'

/-- A place in a text. -/
structure Cursor where
  rest : List Char
  index : Nat
  line : Nat
  column : Nat
deriving DecidableEq, Repr

namespace Cursor

/-- The start of a text. -/
def start (text : List Char) : Cursor :=
  { rest := text, index := 0, line := 0, column := 0 }

/-- The next character. -/
def head? (cursor : Cursor) : Option Char :=
  cursor.rest.head?

/-- The place after the next character. -/
def advance (cursor : Cursor) : Cursor :=
  match cursor.rest with
  | [] => cursor
  | char :: rest =>
    if isBreak char && (char != '\r' || rest.head? != some '\n') then
      { rest, index := cursor.index + 1, line := cursor.line + 1, column := 0 }
    else
      { rest
        index := cursor.index + 1
        line := cursor.line
        column := if char = '\uFEFF' then cursor.column else cursor.column + 1 }

/-- The place after a number of characters. -/
def advanceBy : Nat → Cursor → Cursor
  | 0, cursor => cursor
  | count + 1, cursor => advanceBy count cursor.advance

/-- The longest run of characters that satisfy a test, and the place after it. -/
def span
    (test : Char → Bool)
    (cursor : Cursor) :
    List Char × Cursor :=
  let run := cursor.rest.takeWhile test
  (run, cursor.advanceBy run.length)

/-- The place after the longest run of characters that satisfy a test. -/
def skip
    (test : Char → Bool)
    (cursor : Cursor) : Cursor :=
  (cursor.span test).2

/-- The line end at a place, as it counts in a scalar, and the place after it. -/
def lineBreak? (cursor : Cursor) : Option (Char × Cursor) :=
  match cursor.rest with
  | '\r' :: '\n' :: _ => some ('\n', cursor.advanceBy 2)
  | char :: _ =>
    if char = '\u2028' ∨ char = '\u2029' then some (char, cursor.advance)
    else if isBreak char then some ('\n', cursor.advance)
    else none
  | [] => none

/-- The place after the line end at a place, if there is one. -/
def afterLineBreak (cursor : Cursor) : Cursor :=
  (cursor.lineBreak?.map (·.2)).getD cursor

/-- Whether three given characters and then a blank or the end follow. -/
def atMarker
    (marker : Char)
    (cursor : Cursor) : Bool :=
  match cursor.rest with
  | first :: second :: third :: rest =>
    first == marker && second == marker && third == marker && rest.head?.all isBlankOrBreak
  | _ => false

/-- Whether a line that starts or ends a document follows. -/
def atDocumentMarker (cursor : Cursor) : Bool :=
  cursor.atMarker '-' || cursor.atMarker '.'

end Cursor
end Yaml
end Headroom
