import Headroom.Text.Digit

/-!
# Timestamps

A timestamp is a date of four, one or two, and one or two digits, which may be
followed by a time of day, a fraction of a second and an offset from universal
time.

The parts are read first and then put together, because a text may have the form
of a timestamp and name a day that does not exist.
-/

namespace Headroom
namespace Yaml

/-- An offset from universal time. -/
inductive Offset
  | universal
  | hoursMinutes (negative : Bool) (hours minutes : Nat)
deriving DecidableEq, Repr

/-- A time of day. -/
structure TimeOfDay where
  hour : Nat
  minute : Nat
  second : Nat
  /-- The digits of the fraction of a second. -/
  fraction : List Char
  offset : Option Offset
deriving DecidableEq, Repr

/-- The parts of a timestamp as they are written. -/
structure TimestampParts where
  year : Nat
  monthDigits : List Char
  dayDigits : List Char
  time : Option TimeOfDay
deriving DecidableEq, Repr

/-- A timestamp: a date, or an instant that may be fixed to universal time. -/
inductive Timestamp
  | date (year month day : Nat)
  /-- Microseconds since the start of the calendar, in local or in universal time. -/
  | instant (universal : Bool) (microseconds : Int)
deriving DecidableEq, Repr

namespace Timestamp

/-- One or two digits at the start of a text, and what follows them. -/
def oneOrTwo? : List Char → Option (List Char × List Char)
  | first :: second :: rest =>
    if isAsciiDigit first then
      if isAsciiDigit second then some ([first, second], rest) else some ([first], second :: rest)
    else none
  | [first] => if isAsciiDigit first then some ([first], []) else none
  | [] => none

/-- So many digits at the start of a text, and what follows them. -/
def exactly?
    (count : Nat)
    (text : List Char) :
    Option (List Char × List Char) :=
  let digits := text.take count
  if digits.length = count ∧ digits.all isAsciiDigit then some (digits, text.drop count) else none

/-- A text after a given character. -/
def after?
    (char : Char) :
    List Char → Option (List Char)
  | first :: rest => if first = char then some rest else none
  | [] => none

/-- Whether a character is a space or a tab. -/
def isGap (char : Char) : Bool :=
  char == ' ' || char == '\t'

/-- The offset that a text consists of. -/
def offset? : List Char → Option Offset
  | ['Z'] => some .universal
  | sign :: rest => do
    guard (sign = '+' ∨ sign = '-')
    let (hours, rest) ← oneOrTwo? rest
    let minutes ←
      match rest with
      | [] => some []
      | ':' :: rest => do
        let (minutes, rest) ← exactly? 2 rest
        guard rest.isEmpty
        some minutes
      | _ => none
    return .hoursMinutes (sign = '-') (naturalOfDigits hours) (naturalOfDigits minutes)
  | [] => none

/-- The time of day that a text consists of. -/
def time? (text : List Char) : Option TimeOfDay := do
  let (hour, rest) ← oneOrTwo? text
  let (minute, rest) ← exactly? 2 (← after? ':' rest)
  let (second, rest) ← exactly? 2 (← after? ':' rest)
  let (fraction, rest) :=
    match rest with
    | '.' :: rest => (rest.takeWhile isAsciiDigit, rest.dropWhile isAsciiDigit)
    | rest => ([], rest)
  let offset ←
    if rest.isEmpty then some none else (offset? (rest.dropWhile isGap)).map some
  return {
    hour := naturalOfDigits hour
    minute := naturalOfDigits minute
    second := naturalOfDigits second
    fraction
    offset }

/-- The parts of the timestamp that a text consists of. -/
def parts? (text : List Char) : Option TimestampParts := do
  let (year, rest) ← exactly? 4 text
  let (monthDigits, rest) ← oneOrTwo? (← after? '-' rest)
  let (dayDigits, rest) ← oneOrTwo? (← after? '-' rest)
  let time ←
    match rest with
    | [] => some none
    | mark :: rest =>
      if mark = 'T' ∨ mark = 't' then (time? rest).map some
      else if isGap mark then (time? (rest.dropWhile isGap)).map some
      else none
  return { year := naturalOfDigits year, monthDigits, dayDigits, time }

/-- Whether a year has a leap day. -/
def isLeapYear (year : Nat) : Bool :=
  year % 4 == 0 && (year % 100 != 0 || year % 400 == 0)

/-- The number of days of a month. -/
def daysInMonth (year month : Nat) : Nat :=
  if month = 2 then (if isLeapYear year then 29 else 28)
  else if month ∈ [4, 6, 9, 11] then 30
  else 31

/-- The number of days before a date since the start of the calendar. -/
def dayNumber (year month day : Nat) : Nat :=
  let before := year - 1
  365 * before + before / 4 - before / 100 + before / 400 +
    ((List.range month).drop 1).foldl (fun days month => days + daysInMonth year month) 0 + day - 1

/-- Whether a date exists. -/
def isDate (year month day : Nat) : Bool :=
  1 ≤ year && 1 ≤ month && month ≤ 12 && 1 ≤ day && day ≤ daysInMonth year month

/-- The minutes by which an offset is ahead of universal time. -/
def Offset.minutesAhead : Offset → Int
  | .universal => 0
  | .hoursMinutes negative hours minutes =>
    let minutes : Int := hours * 60 + minutes
    if negative then -minutes else minutes

/-- The microseconds that the digits of a fraction of a second denote. -/
def microseconds (fraction : List Char) : Nat :=
  let digits := fraction.take 6
  naturalOfDigits (digits ++ List.replicate (6 - digits.length) '0')

/-- The timestamp with given parts, if its date and time exist. -/
def ofParts? (parts : TimestampParts) : Option Timestamp := do
  let month := naturalOfDigits parts.monthDigits
  let day := naturalOfDigits parts.dayDigits
  guard (isDate parts.year month day)
  match parts.time with
  | none => return .date parts.year month day
  | some time =>
    let ahead := (time.offset.map Offset.minutesAhead).getD 0
    guard (time.hour < 24 ∧ time.minute < 60 ∧ time.second < 60 ∧ ahead.natAbs < 24 * 60)
    let minutes : Int := (dayNumber parts.year month day * 24 + time.hour) * 60 + time.minute
    return .instant time.offset.isSome
      (((minutes - ahead) * 60 + time.second) * 1000000 + microseconds time.fraction)

end Timestamp
end Yaml
end Headroom
