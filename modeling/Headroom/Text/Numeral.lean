import Headroom.Text.Blank
import Headroom.Text.Digit

/-!
# Integers in text

An integer may be surrounded by blanks and signed; its digits may be grouped by
single underscores, and a radix of two, eight or sixteen may be announced by
its customary prefix.  Decimal digits of every script are accepted.

Decimal numerals longer than `maximumDigits` are refused, leading zeros counted,
because converting them takes time quadratic in their length.  For the same
reason longer integers are not written out.
-/

namespace Headroom
namespace Numeral

/-- The greatest number of decimal digits that are converted. -/
def maximumDigits : Nat := 4300

/-- Whether an integer has few enough digits to be written out. -/
def isWritable (value : Int) : Bool :=
  value.natAbs < Nat.pow 10 maximumDigits

/-- An integer written out in decimal, if it is not too long for that. -/
def text? (value : Int) : Option String :=
  if isWritable value then some (toString value) else none

/-- The blanks allowed around a numeral: all but the information separators. -/
def isPadding (char : Char) : Bool :=
  isBlank char && !(0x1C ≤ char.toNat && char.toNat ≤ 0x1F)

/-- The value of a digit in a radix, letters counting from ten. -/
def radixDigit?
    (radix : Nat)
    (char : Char) :
    Option Nat :=
  let value :=
    if 'a' ≤ char ∧ char ≤ 'z' then some (char.toNat - 'a'.toNat + 10)
    else if 'A' ≤ char ∧ char ≤ 'Z' then some (char.toNat - 'A'.toNat + 10)
    else digit? char
  value.filter (· < radix)

/-- The digits of a numeral whose underscores each stand between two digits. -/
def groupedDigits?
    (radix : Nat)
    (afterDigit : Bool) :
    List Char → Option (List Nat)
  | [] => if afterDigit then some [] else none
  | char :: rest =>
    if char = '_' then
      if afterDigit then groupedDigits? radix false rest else none
    else do
      let digit ← radixDigit? radix char
      let digits ← groupedDigits? radix true rest
      return digit :: digits

/-- The number that a list of digits denotes. -/
def ofDigits
    (radix : Nat)
    (digits : List Nat) : Nat :=
  digits.foldl (fun value digit => value * radix + digit) 0

/-- The letter that announces a radix after a zero. -/
def radixLetter? (radix : Nat) : Option Char :=
  if radix = 2 then some 'b'
  else if radix = 8 then some 'o'
  else if radix = 16 then some 'x'
  else none

/-- A numeral without the announcement of its radix. -/
def withoutAnnouncement
    (radix : Nat) :
    List Char → List Char
  | '0' :: letter :: rest =>
    if radixLetter? radix = some letter.toLower then
      match rest with
      | '_' :: digits => digits
      | digits => digits
    else '0' :: letter :: rest
  | text => text

/-- The sign in front of a numeral, and what follows it. -/
def splitSign : List Char → Bool × List Char
  | '-' :: rest => (true, rest)
  | '+' :: rest => (false, rest)
  | text => (false, text)

/-- The integer that a text denotes in a radix. -/
def integer?
    (radix : Nat)
    (text : List Char) :
    Option Int := do
  let (negative, body) := splitSign (trim isPadding text)
  let digits ← groupedDigits? radix false (withoutAnnouncement radix body)
  if radix = 10 ∧ maximumDigits < digits.length then none
  let magnitude := Int.ofNat (ofDigits radix digits)
  return if negative then -magnitude else magnitude

end Numeral
end Headroom
