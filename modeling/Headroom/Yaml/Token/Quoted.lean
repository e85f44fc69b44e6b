import Headroom.Text.Numeral
import Headroom.Yaml.Cursor
import Headroom.Yaml.Fault
import Headroom.Text.CodePoint

/-!
# Quoted scalars

A scalar between single quotes is taken as it stands, two single quotes meaning
one.  Between double quotes a backslash introduces an escape, which may name any
code point by its number.

A line end in a quoted scalar becomes a space, or vanishes before further line
ends; a line that marks the end of the document may not occur.
-/

namespace Headroom
namespace Yaml
namespace Quoted

/-- The character that a one-letter escape stands for. -/
def escape? : Char → Option Char
  | '0' => some '\x00'
  | 'a' => some '\x07'
  | 'b' => some '\x08'
  | 't' => some '\t'
  | '\t' => some '\t'
  | 'n' => some '\n'
  | 'v' => some '\x0b'
  | 'f' => some '\x0c'
  | 'r' => some '\r'
  | 'e' => some '\x1b'
  | ' ' => some ' '
  | '"' => some '"'
  | '\\' => some '\\'
  | '/' => some '/'
  | 'N' => some '\x85'
  | '_' => some '\xa0'
  | 'L' => some '\u2028'
  | 'P' => some '\u2029'
  | _ => none

/-- How many hexadecimal digits follow a letter that introduces a number. -/
def escapeDigits? : Char → Option Nat
  | 'x' => some 2
  | 'u' => some 4
  | 'U' => some 8
  | _ => none

/-- The value of an ASCII hexadecimal digit. -/
def hexDigit? (char : Char) : Option Nat :=
  if char.toNat < 0x80 then Numeral.radixDigit? 16 char else none

/-- The number that a given count of hexadecimal digits denotes. -/
def hexNumber?
    (count : Nat)
    (text : List Char) :
    Option Nat := do
  guard (count ≤ text.length)
  let digits ← (text.take count).mapM hexDigit?
  return Numeral.ofDigits 16 digits

/-- The code point with a given number. -/
def codePoint (code : Nat) : Except Fault CodePoint :=
  if 0x80000000 ≤ code then .error .hugeCodePoint
  else if 0x110000 ≤ code then .error .noSuchCodePoint
  else .ok (.ofCode code)

/-- The further line ends after one line end of a quoted scalar. -/
def breaks : Nat → Cursor → Except Fault (List Char × Cursor)
  | 0, _ => .error .malformed
  | fuel + 1, cursor =>
    if cursor.atDocumentMarker then .error .malformed
    else
      let cursor := cursor.skip fun char => char == ' ' || char == '\t'
      match cursor.lineBreak? with
      | none => .ok ([], cursor)
      | some (lineEnd, cursor) => do
        let (others, cursor) ← breaks fuel cursor
        return (lineEnd :: others, cursor)

/-- Whether a character stands for itself in every quoted scalar. -/
def isOrdinary (char : Char) : Bool :=
  !(char == '\'' || char == '"' || char == '\\' || isBlankOrBreak char)

/-- The characters of a quoted scalar up to the next blank, line end or closing quote. -/
def solid
    (double : Bool) :
    Nat → Cursor → Except Fault (Text × Cursor)
  | 0, _ => .error .malformed
  | fuel + 1, cursor => do
    let (run, cursor) := cursor.span isOrdinary
    let found := Text.ofChars run
    let more (next : Text) (cursor : Cursor) : Except Fault (Text × Cursor) := do
      let (others, cursor) ← solid double fuel cursor
      return (found ++ next ++ others, cursor)
    match double, cursor.rest with
    | false, '\'' :: '\'' :: _ => more [.scalar '\''] (cursor.advanceBy 2)
    | true, '\'' :: _ => more [.scalar '\''] cursor.advance
    | false, '"' :: _ => more [.scalar '"'] cursor.advance
    | false, '\\' :: _ => more [.scalar '\\'] cursor.advance
    | true, '\\' :: letter :: text =>
      match escape? letter, escapeDigits? letter with
      | some char, _ => more [.scalar char] (cursor.advanceBy 2)
      | none, some count =>
        match hexNumber? count text with
        | none => .error .malformed
        | some code => do
          let point ← codePoint code
          more [point] (cursor.advanceBy (2 + count))
      | none, none =>
        match cursor.advance.lineBreak? with
        | none => .error .malformed
        | some (_, cursor) => do
          let (lineEnds, cursor) ← breaks (cursor.rest.length + 1) cursor
          more (Text.ofChars lineEnds) cursor
    | true, ['\\'] => .error .malformed
    | _, _ => .ok (found, cursor)

/-- What a line end and the line ends after it become in a folded scalar. -/
def folded
    (lineEnd : Char)
    (others : List Char) :
    List Char :=
  if lineEnd ≠ '\n' then lineEnd :: others
  else if others.isEmpty then [' ']
  else others

/-- The blanks and line ends between two solid parts of a quoted scalar. -/
def gap (cursor : Cursor) : Except Fault (List Char × Cursor) :=
  let (blanks, cursor) := cursor.span fun char => char == ' ' || char == '\t'
  match cursor.rest, cursor.lineBreak? with
  | [], _ => .error .malformed
  | _, none => .ok (blanks, cursor)
  | _, some (lineEnd, cursor) => do
    let (others, cursor) ← breaks (cursor.rest.length + 1) cursor
    return (folded lineEnd others, cursor)

/-- The rest of a quoted scalar, up to and including the closing quote. -/
def upToQuote
    (quote : Char) :
    Nat → Cursor → Except Fault (Text × Cursor)
  | 0, _ => .error .malformed
  | fuel + 1, cursor => do
    let (found, cursor) ← solid (quote == '"') (cursor.rest.length + 1) cursor
    if cursor.head? = some quote then return (found, cursor.advance)
    let (between, cursor) ← gap cursor
    let (others, cursor) ← upToQuote quote fuel cursor
    return (found ++ Text.ofChars between ++ others, cursor)

/-- The quoted scalar at a place, which is an opening quote. -/
def scan (cursor : Cursor) : Except Fault (Text × Cursor) :=
  match cursor.head? with
  | none => .error .malformed
  | some quote => upToQuote quote (cursor.rest.length + 1) cursor.advance

end Quoted
end Yaml
end Headroom
