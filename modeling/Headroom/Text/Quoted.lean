import Headroom.Text.CodePoint
import Headroom.Text.Printable

/-!
# Quoted text

A value named in a message is shown between quotes, on one line and in
printable characters only.  Single quotes enclose it unless it holds a single
quote and no double one.

The enclosing quote and the backslash are preceded by a backslash; the three
common control characters have letters; any other character that cannot be
shown is given by its number in two, four or eight hexadecimal digits.
-/

namespace Headroom

/-- The last `count` hexadecimal digits of a number. -/
def hexDigits (value : Nat) : Nat → List Char
  | 0 => []
  | count + 1 => hexDigits (value / 16) count ++ [Nat.digitChar (value % 16)]

/-- A code point given by its number. -/
def numberedCodePoint (code : Nat) : List Char :=
  if code ≤ 0xFF then '\\' :: 'x' :: hexDigits code 2
  else if code ≤ 0xFFFF then '\\' :: 'u' :: hexDigits code 4
  else '\\' :: 'U' :: hexDigits code 8

/-- One code point as it stands between quotes of the given kind. -/
def quotedCodePoint
    (quote : Char) :
    CodePoint → List Char
  | .surrogate offset => numberedCodePoint (0xD800 + offset.val)
  | .scalar char =>
    if char = quote ∨ char = '\\' then ['\\', char]
    else if char = '\n' then ['\\', 'n']
    else if char = '\r' then ['\\', 'r']
    else if char = '\t' then ['\\', 't']
    else if isPrintable char then [char]
    else numberedCodePoint char.toNat

namespace Text

/-- The quote that encloses a text. -/
def quoteMark (text : Text) : Char :=
  if text.contains (.scalar '\'') && !text.contains (.scalar '"') then '"' else '\''

/-- A text between quotes. -/
def quoted (text : Text) : String :=
  let mark := quoteMark text
  String.ofList (mark :: text.flatMap (quotedCodePoint mark) ++ [mark])

end Text
end Headroom
