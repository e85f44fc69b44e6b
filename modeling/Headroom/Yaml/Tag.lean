import Headroom.Text.CodePoint
import Headroom.Yaml.Timestamp

/-!
# Tags

The tag of a node says what kind of value it has.  A plain scalar without a tag
gets one from its form: words for truth values and for nothing, numbers in
several notations, timestamps, and the two marks that mean something as keys.

The forms are tried in a fixed order, but no text has more than one of them; a
text that has none is text.
-/

namespace Headroom
namespace Yaml

namespace PlainForm

/-- The words for truth values. -/
def truthWords : List String :=
  ["yes", "Yes", "YES", "no", "No", "NO", "true", "True", "TRUE", "false", "False", "FALSE",
    "on", "On", "ON", "off", "Off", "OFF"]

/-- The words for nothing. -/
def nullWords : List String :=
  ["~", "null", "Null", "NULL", ""]

/-- Whether a character is a digit or an underscore. -/
def isSpacedDigit (char : Char) : Bool :=
  isAsciiDigit char || char == '_'

/-- A text without the sign in front of it. -/
def unsigned : List Char → List Char
  | '-' :: rest => rest
  | '+' :: rest => rest
  | chars => chars

/-- Whether a text begins with a digit. -/
def beginsWithDigit (text : List Char) : Bool :=
  text.head?.any isAsciiDigit

/-- A text after the group of base sixty at its start: a colon and one or two digits. -/
def afterGroup? : List Char → Option (List Char)
  | ':' :: first :: second :: rest =>
    if '0' ≤ first ∧ first ≤ '5' ∧ isAsciiDigit second then some rest
    else if isAsciiDigit first then some (second :: rest)
    else none
  | [':', first] => if isAsciiDigit first then some [] else none
  | _ => none

/-- A text after at most so many groups of base sixty at its start. -/
def afterGroupsUpTo : Nat → List Char → List Char
  | 0, chars => chars
  | fuel + 1, chars =>
    match afterGroup? chars with
    | none => chars
    | some rest => afterGroupsUpTo fuel rest

/-- A text after the groups of base sixty at its start. -/
def afterGroups (chars : List Char) : List Char :=
  afterGroupsUpTo chars.length chars

/-- Whether a text is the exponent of a number, or nothing. -/
def isExponent : List Char → Bool
  | [] => true
  | mark :: sign :: digits =>
    (mark == 'e' || mark == 'E') && (sign == '+' || sign == '-') && !digits.isEmpty &&
      digits.all isAsciiDigit
  | _ => false

/-- Whether a text is an unsigned integer in some notation. -/
def isUnsignedInteger : List Char → Bool
  | ['0'] => true
  | '0' :: 'b' :: digits =>
    !digits.isEmpty && digits.all fun char => char == '0' || char == '1' || char == '_'
  | '0' :: 'x' :: digits =>
    !digits.isEmpty && digits.all fun char =>
      isSpacedDigit char || ('a' ≤ char && char ≤ 'f') || ('A' ≤ char && char ≤ 'F')
  | '0' :: digits => digits.all fun char => ('0' ≤ char && char ≤ '7') || char == '_'
  | chars =>
    let rest := chars.dropWhile isSpacedDigit
    beginsWithDigit chars && (rest.isEmpty || (afterGroups rest).isEmpty)

/-- Whether a text is a number with a point, or an infinity, or the word for no number. -/
def isReal (text : List Char) : Bool :=
  let body := unsigned text
  let rest := body.dropWhile isSpacedDigit
  let groups := afterGroups rest
  let afterPoint : List Char → Option (List Char)
    | '.' :: fraction => some (fraction.dropWhile isSpacedDigit)
    | _ => none
  (beginsWithDigit body && (afterPoint rest).any isExponent) ||
    (text.head? == some '.' && beginsWithDigit text.tail &&
      isExponent (text.tail.dropWhile isSpacedDigit)) ||
    (beginsWithDigit body && rest.length != groups.length && (afterPoint groups).any (·.isEmpty)) ||
    [".inf", ".Inf", ".INF"].contains (String.ofList body) ||
    [".nan", ".NaN", ".NAN"].contains (String.ofList text)

/-- Whether a text is a timestamp, a date alone being written with all its digits. -/
def isTimestamp (text : List Char) : Bool :=
  (Timestamp.parts? text).any fun parts =>
    parts.time.isSome || (parts.monthDigits.length == 2 && parts.dayDigits.length == 2)

end PlainForm

/-- The kind of value of a node. -/
inductive Tag
  | null
  | truth
  | integer
  | real
  | binary
  | timestamp
  | orderedMapping
  | pairs
  | set
  | text
  | sequence
  | mapping
  | merge
  | value
  | other
deriving DecidableEq, Repr

namespace Tag

/-- The tag with a full name. -/
def ofName (name : String) : Tag :=
  match name with
  | "tag:yaml.org,2002:null" => .null
  | "tag:yaml.org,2002:bool" => .truth
  | "tag:yaml.org,2002:int" => .integer
  | "tag:yaml.org,2002:float" => .real
  | "tag:yaml.org,2002:binary" => .binary
  | "tag:yaml.org,2002:timestamp" => .timestamp
  | "tag:yaml.org,2002:omap" => .orderedMapping
  | "tag:yaml.org,2002:pairs" => .pairs
  | "tag:yaml.org,2002:set" => .set
  | "tag:yaml.org,2002:str" => .text
  | "tag:yaml.org,2002:seq" => .sequence
  | "tag:yaml.org,2002:map" => .mapping
  | "tag:yaml.org,2002:merge" => .merge
  | "tag:yaml.org,2002:value" => .value
  | _ => .other

open PlainForm in
/-- The tag that a text has by its form. -/
def ofForm (text : List Char) : Tag :=
  if truthWords.contains (String.ofList text) then .truth
  else if isReal text then .real
  else if isUnsignedInteger (unsigned text) then .integer
  else if text = ['<', '<'] then .merge
  else if nullWords.contains (String.ofList text) then .null
  else if isTimestamp text then .timestamp
  else if text = ['='] then .value
  else .text

/-- The tag of a scalar that is resolved; one line end at its end does not count. -/
def ofPlain (value : Text) : Tag :=
  match value.chars? with
  | none => .text
  | some chars =>
    if chars.getLast? = some '\n' ∧ chars.length ≠ 1 then ofForm chars.dropLast
    else ofForm chars

end Tag
end Yaml
end Headroom
