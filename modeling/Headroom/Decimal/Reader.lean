import Headroom.Decimal.Basic
import Headroom.Text.Numeral

/-!
# Reading decimal numbers

A decimal number is written with an optional sign, digits with at most one
point among them, and an optional exponent.  Blanks around it and underscores
anywhere in it mean nothing, and decimal digits of every script are accepted.

The words for infinity and for no number are read without regard to case.
Numbers whose exponent is beyond eighteen digits are refused.
-/

namespace Headroom
namespace Decimal

/-- The greatest power of ten that the leading digit of a number may have. -/
def greatestExponent : Int := 999999999999999999

/-- The least exponent of a number. -/
def leastExponent : Int := -1999999999999999997

/-- A character with a digit of any script written as an ASCII digit. -/
def plainDigit (char : Char) : Char :=
  match digit? char with
  | some value => Nat.digitChar value
  | none => char

/-- A text as it counts for reading: without outer blanks and underscores, in ASCII digits. -/
def essentials (text : List Char) : List Char :=
  ((trim isBlank text).filter (· ≠ '_')).map plainDigit

/-- The exponent that follows the digits of a number. -/
def exponent? : List Char → Option Int
  | [] => some 0
  | mark :: text => do
    guard (mark = 'e' ∨ mark = 'E')
    let (negative, digits) := Numeral.splitSign text
    guard (!digits.isEmpty && digits.all isAsciiDigit)
    let magnitude := (naturalOfDigits digits : Int)
    return if negative then -magnitude else magnitude

/-- Whether a number is within the range of exponents. -/
def inRange (number : FiniteDecimal) : Bool :=
  leastExponent ≤ number.exponent &&
    (if number.coefficient = 0 then number.exponent else number.leadingExponent) ≤ greatestExponent

/-- The number written by unsigned digits, a point and an exponent. -/
def finite?
    (negative : Bool)
    (text : List Char) :
    Option FiniteDecimal := do
  let whole := text.takeWhile isAsciiDigit
  let afterWhole := text.dropWhile isAsciiDigit
  let (fraction, afterFraction) :=
    match afterWhole with
    | '.' :: rest => (rest.takeWhile isAsciiDigit, rest.dropWhile isAsciiDigit)
    | rest => ([], rest)
  guard (!(whole ++ fraction).isEmpty)
  let exponent ← exponent? afterFraction
  return {
    negative
    coefficient := naturalOfDigits (whole ++ fraction)
    exponent := exponent - fraction.length }

/-- The decimal number that a text denotes. -/
def read? (text : List Char) : Option Decimal :=
  let (negative, body) := Numeral.splitSign (essentials text)
  let word := body.map Char.toLower
  if word = "inf".toList ∨ word = "infinity".toList then some (.infinite negative)
  else if "nan".toList.isPrefixOf word ∧ (word.drop 3).all isAsciiDigit then
    some (.notANumber false)
  else if "snan".toList.isPrefixOf word ∧ (word.drop 4).all isAsciiDigit then
    some (.notANumber true)
  else ((finite? negative body).filter inRange).map .finite

end Decimal
end Headroom
