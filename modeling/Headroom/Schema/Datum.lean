import Headroom.Binary64.Reader
import Headroom.Schema.Issue
import Headroom.Text.Utf8

/-!
# Loosely typed data

Settings and records arrive as data whose types are only roughly those wanted:
a number may come as text, a truth value as a word or a number.  Each reader
here turns a datum into a value of one type or says what is wrong with it.

Text is made from nothing but text and well-formed bytes.
-/

namespace Headroom
namespace Schema

/-- A value as it arrives, before its type is known to be right. -/
inductive Datum
  | null
  | truth (value : Bool)
  | integer (value : Int)
  | real (value : Binary64)
  | text (value : Text)
  | bytes (value : List UInt8)
  | composite
deriving DecidableEq, Repr

/-- A text in which each underscore stands alone inside, without its underscores. -/
def withoutUnderscores? (text : List Char) : Option (List Char) :=
  if text.head? = some '_' ∨ text.getLast? = some '_' ∨ ('_', '_') ∈ text.zip text.tail then none
  else some (text.filter (· ≠ '_'))

/-- The integer that is written without any ornament: digits, the first of which is no zero
unless it is the only one, after a minus sign or none.  A numeral is oversized even if
something else follows its digits. -/
def bareInteger (text : List Char) : Except Problem Int :=
  let (negative, body) :=
    match text with
    | '-' :: rest => (true, rest)
    | text => (false, text)
  let digits := body.takeWhile isAsciiDigit
  if body.head? = some '0' then if body = ['0'] then .ok 0 else .error .unreadableInteger
  else if Numeral.maximumDigits < text.length - body.length + digits.length then
    .error .oversizedInteger
  else if digits.isEmpty ∨ digits ≠ body then .error .unreadableInteger
  else
    let magnitude := (naturalOfDigits digits : Int)
    .ok (if negative then -magnitude else magnitude)

/-- What follows the zeros that a numeral begins with, given the last of them.  Underscores
between them are dropped too, and a minus sign may follow them. -/
def afterZeros (last : Char) : List Char → Option (List Char)
  | [] => some [last]
  | char :: rest =>
    if char = '0' ∨ char = '_' then afterZeros char rest
    else if isAsciiDigit char ∨ char = '-' then some (char :: rest)
    else if char = '.' then some (last :: char :: rest)
    else none

/-- A numeral without the zeros that it begins with; the only digit of its whole part stays. -/
def withoutLeadingZeros? (text : List Char) : Option (List Char) :=
  match text with
  | '0' :: rest => afterZeros '0' rest
  | char :: _ => if isAsciiDigit char ∨ char = '-' then some text else none
  | [] => none

/-- A numeral without a fraction that consists of zeros. -/
def withoutZeroFraction (text : List Char) : List Char :=
  match text.dropWhile (· ≠ '.') with
  | '.' :: zero :: zeros =>
    if (zero :: zeros).all (· == '0') then text.takeWhile (· ≠ '.') else text
  | _ => text

/-- A numeral without the blanks around it and the ornaments that it may have. -/
def withoutOrnaments? (text : List Char) : Option (List Char) := do
  let unsigned ←
    match trim Numeral.isPadding text with
    | '+' :: '-' :: _ => none
    | '+' :: rest => some rest
    | trimmed => some trimmed
  let whole := withoutZeroFraction (← withoutLeadingZeros? unsigned)
  return (withoutUnderscores? whole).getD whole

/-- The integer that a text denotes, as it stands or without its ornaments. -/
def integerOfText (text : Text) : Except Problem Int :=
  let chars := text.chars?.getD []
  match bareInteger chars with
  | .error .unreadableInteger =>
    (withoutOrnaments? chars).elim (.error .unreadableInteger) bareInteger
  | outcome => outcome

/-- Whether an integer fits into a machine word of 64 bits with a sign. -/
def fitsWord (value : Int) : Bool :=
  -(Nat.pow 2 63 : Int) ≤ value && value < (Nat.pow 2 63 : Int)

/-- The integer that a binary number is. -/
def integerOfReal (value : Binary64) : Except Problem Int :=
  match value.toRat? with
  | none => .error .infiniteInteger
  | some exact =>
    if exact.den ≠ 1 then .error .fractionalInteger
    else if exact.num.natAbs < Nat.pow 2 63 then .ok exact.num
    else .error .oversizedInteger

/-- The truth values that words stand for. -/
def truthOfWord? (word : Text) : Option Bool :=
  let word := String.ofList ((word.chars?.getD []).map Char.toLower)
  if word ∈ ["1", "on", "t", "true", "y", "yes"] then some true
  else if word ∈ ["0", "off", "f", "false", "n", "no"] then some false
  else none

/-- The truth value that an integer stands for; a large one is not even looked at. -/
def truthOfInteger (value : Int) : Except Problem Bool :=
  if value = 0 then .ok false
  else if value = 1 then .ok true
  else if fitsWord value then .error .unreadableTruth
  else .error .notTruth

/-- The number nearest to an integer that is not too large for one. -/
def realOfInteger (value : Int) : Except Problem Binary64 :=
  match Binary64.ofInt value with
  | .infinite _ => .error .notNumber
  | real => .ok real

/-- The number that a text denotes: blanks may surround it, or underscores group its digits. -/
def realOfText (text : Text) : Except Problem Binary64 :=
  let chars := text.chars?.getD []
  match (Binary64.read? (trim Numeral.isPadding chars)).or
      ((withoutUnderscores? chars).bind Binary64.read?) with
  | some value => .ok value
  | none => .error .unreadableNumber

namespace Datum

/-- A datum read as text. -/
def asText : Datum → Except Problem Text
  | .text value => .ok value
  | .bytes value => ((Utf8.decode? value).map Text.ofChars).elim (.error .notUnicodeText) .ok
  | _ => .error .notText

/-- A datum read as a string of characters. -/
def asString (datum : Datum) : Except Problem String := do
  let text ← datum.asText
  (text.chars?.map String.ofList).elim (.error .notUnicodeText) .ok

/-- A datum read as an integer. -/
def asInteger : Datum → Except Problem Int
  | .truth value => .ok (if value then 1 else 0)
  | .integer value => .ok value
  | .real value => integerOfReal value
  | .text value => integerOfText value
  | .null | .bytes _ | .composite => .error .notInteger

/-- A datum read as a natural number. -/
def asNatural (datum : Datum) : Except Problem Nat :=
  match datum.asInteger with
  | .error problem => .error problem
  | .ok value => if value < 0 then .error .negative else .ok value.toNat

/-- A datum read as a truth value. -/
def asTruth : Datum → Except Problem Bool
  | .truth value => .ok value
  | .integer value => truthOfInteger value
  | .real value =>
    match integerOfReal value with
    | .ok whole => truthOfInteger whole
    | .error _ => .error .notTruth
  | .text value => (truthOfWord? value).elim (.error .unreadableTruth) .ok
  | .null | .bytes _ | .composite => .error .notTruth

/-- A datum read as a number. -/
def asReal : Datum → Except Problem Binary64
  | .truth value => .ok (.ofInt (if value then 1 else 0))
  | .integer value => realOfInteger value
  | .real value => .ok value
  | .text value => realOfText value
  | .null | .bytes _ | .composite => .error .notNumber

/-- A datum read as a number greater than zero. -/
def asPositive (datum : Datum) : Except Problem Binary64 :=
  match datum.asReal with
  | .error problem => .error problem
  | .ok value => if value.isPositive then .ok value else .error .notPositive

theorem isPositive_of_asPositive
    {datum : Datum}
    {value : Binary64}
    (readable : datum.asPositive = .ok value) :
    value.isPositive = true := by
  unfold asPositive at readable
  split at readable
  · cases readable
  · split at readable
    · cases readable
      assumption
    · cases readable

end Datum

/-- The fields of a record. -/
abbrev Fields := List (String × Datum)

/-- The datum of a field, the last one written if there are several. -/
def Fields.find?
    (fields : Fields)
    (name : String) :
    Option Datum :=
  (List.find? (fun field => field.1 == name) fields.reverse).map (·.2)

/-- A field that must be present, read as a type. -/
def Fields.required
    {α : Type}
    (fields : Fields)
    (name : String)
    (read : Datum → Except Problem α) :
    Checked α :=
  .atField name ((fields.find? name).elim (.error .missing) read)

/-- A field that may be absent, read as a type. -/
def Fields.optional
    {α : Type}
    (fields : Fields)
    (name : String)
    (default : α)
    (read : Datum → Except Problem α) :
    Checked α :=
  .atField name ((fields.find? name).elim (.ok default) read)

end Schema
end Headroom
