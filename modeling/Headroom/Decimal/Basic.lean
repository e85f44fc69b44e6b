/-!
# Decimal numbers

A decimal number is a signed whole coefficient times a power of ten, an
infinity, or no number at all.  Its value is exact: nothing is rounded unless a
precision is asked for.

Rounding to a precision keeps the leading digits of the coefficient; a rest of
exactly one half goes to the even neighbour.
-/

namespace Headroom

/-- A signed coefficient times a power of ten. -/
structure FiniteDecimal where
  negative : Bool
  coefficient : Nat
  exponent : Int
deriving DecidableEq, Repr

/-- A decimal number, an infinity, or no number. -/
inductive Decimal
  | finite (number : FiniteDecimal)
  | infinite (negative : Bool)
  | notANumber (signals : Bool)
deriving DecidableEq, Repr

/-- How many decimal digits a number is written with. -/
def digitCount (value : Nat) : Nat :=
  (Nat.toDigits 10 value).length

/-- A quotient rounded to the nearest whole number, a half going to the even one. -/
def divideToEven (dividend divisor : Nat) : Nat :=
  let quotient := dividend / divisor
  let rest := 2 * (dividend % divisor)
  if divisor < rest ∨ (rest = divisor ∧ quotient % 2 = 1) then quotient + 1 else quotient

namespace FiniteDecimal

/-- The power of ten of the leading digit. -/
def leadingExponent (number : FiniteDecimal) : Int :=
  number.exponent + (digitCount number.coefficient : Int) - 1

/-- A number with at most the given count of digits, rounded to even. -/
def roundTo
    (precision : Nat)
    (number : FiniteDecimal) :
    FiniteDecimal :=
  let excess := digitCount number.coefficient - precision
  if excess = 0 then number
  else
    { number with
      coefficient := divideToEven number.coefficient (Nat.pow 10 excess)
      exponent := number.exponent + excess }

/-- A number times a whole factor. -/
def scale
    (factor : Nat)
    (number : FiniteDecimal) :
    FiniteDecimal :=
  { number with coefficient := number.coefficient * factor }

/-- A number times a power of ten. -/
def shift
    (places : Int)
    (number : FiniteDecimal) :
    FiniteDecimal :=
  { number with exponent := number.exponent + places }

/-- The size of a number without its fraction. -/
def wholeMagnitude (number : FiniteDecimal) : Nat :=
  if 0 ≤ number.exponent then
    number.coefficient * Nat.pow 10 number.exponent.toNat
  else if (digitCount number.coefficient : Int) ≤ -number.exponent then 0
  else number.coefficient / Nat.pow 10 (-number.exponent).toNat

/-- A number without its fraction. -/
def truncate (number : FiniteDecimal) : Int :=
  if number.negative then -(number.wholeMagnitude : Int) else number.wholeMagnitude

end FiniteDecimal
end Headroom
