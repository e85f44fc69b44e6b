import Headroom.Decimal.Basic

/-!
# Binary numbers of double precision

A finite number is a significand below `2 ^ 53` times a power of two not below
`2 ^ -1074`; besides there are two infinities and one value that is no number.
Zero has a sign.

Results are computed exactly, as fractions, and then rounded to the nearest
number, a value half-way between two going to the one with the even
significand.  Where no number comes near the greatest one, as on a clock, the
rounded values stand for the numbers.
-/

namespace Headroom

/-- A binary number of double precision. -/
inductive Binary64
  | finite (negative : Bool) (significand : Nat) (exponent : Int)
  | infinite (negative : Bool)
  | notANumber
deriving DecidableEq, Repr

namespace Binary64

/-- The number of bits of a significand. -/
def significandBits : Nat := 53

/-- The least exponent of a significand. -/
def leastExponent : Int := -1074

/-- The greatest exponent of a significand. -/
def greatestExponent : Int := 971

/-- The numerator and the denominator of a significand times a power of two. -/
def fraction
    (significand : Nat)
    (exponent : Int) : Nat × Nat :=
  if 0 ≤ exponent then (significand * Nat.pow 2 exponent.toNat, 1)
  else (significand, Nat.pow 2 (-exponent).toNat)

/-- A fraction divided by a power of two. -/
def inUnits
    (numerator denominator : Nat)
    (exponent : Int) : Nat × Nat :=
  if 0 ≤ exponent then (numerator, denominator * Nat.pow 2 exponent.toNat)
  else (numerator * Nat.pow 2 (-exponent).toNat, denominator)

/-- The exponent with which a positive fraction has a full significand. -/
def exponentOf (numerator denominator : Nat) : Int :=
  let estimate := (numerator.log2 : Int) - denominator.log2
  let (scaledNumerator, scaledDenominator) := inUnits numerator denominator estimate
  let leading := if scaledNumerator < scaledDenominator then estimate - 1 else estimate
  max leastExponent (leading - (significandBits - 1))

/-- The significand and the exponent nearest to a positive fraction, the exponent having no upper
end. -/
def roundFraction (numerator denominator : Nat) : Nat × Int :=
  let exponent := exponentOf numerator denominator
  let (scaledNumerator, scaledDenominator) := inUnits numerator denominator exponent
  let significand := divideToEven scaledNumerator scaledDenominator
  if significand = Nat.pow 2 significandBits then
    (Nat.pow 2 (significandBits - 1), exponent + 1)
  else (significand, exponent)

/-- The number nearest to a fraction of given sign. -/
def ofFraction
    (negative : Bool)
    (numerator denominator : Nat) : Binary64 :=
  if numerator = 0 then .finite negative 0 leastExponent
  else
    let (significand, exponent) := roundFraction numerator denominator
    if greatestExponent < exponent then .infinite negative
    else .finite negative significand exponent

/-- The number nearest to an integer. -/
def ofInt (value : Int) : Binary64 :=
  ofFraction (value < 0) value.natAbs 1

/-- The number nearest to a decimal number. -/
def ofDecimal (number : FiniteDecimal) : Binary64 :=
  if number.coefficient = 0 then .finite number.negative 0 leastExponent
  else if 400 < number.leadingExponent then .infinite number.negative
  else if number.leadingExponent < -400 then .finite number.negative 0 leastExponent
  else if 0 ≤ number.exponent then
    ofFraction number.negative (number.coefficient * Nat.pow 10 number.exponent.toNat) 1
  else
    ofFraction number.negative number.coefficient (Nat.pow 10 (-number.exponent).toNat)

/-- The exact value of a sign, a significand and an exponent. -/
def valueOf
    (negative : Bool)
    (significand : Nat)
    (exponent : Int) : Rat :=
  let (numerator, denominator) := fraction significand exponent
  let magnitude := mkRat numerator denominator
  if negative then -magnitude else magnitude

/-- The exact value of a finite number. -/
def toRat? : Binary64 → Option Rat
  | .finite negative significand exponent => some (valueOf negative significand exponent)
  | _ => none

/-- The number nearest to a rational number, with a given sign if that is zero. -/
def ofRat
    (zeroNegative : Bool)
    (value : Rat) : Binary64 :=
  if value = 0 then .finite zeroNegative 0 leastExponent
  else ofFraction (value < 0) value.num.natAbs value.den

/-- The value nearest to a rational number among those that a number could have if there were no
greatest exponent. -/
def nearest (value : Rat) : Rat :=
  if value = 0 then 0
  else
    let (significand, exponent) := roundFraction value.num.natAbs value.den
    valueOf (value < 0) significand exponent

/-- Whether the sign of a number is minus. -/
def isNegative : Binary64 → Bool
  | .finite negative _ _ => negative
  | .infinite negative => negative
  | .notANumber => false

/-- Whether a number is zero. -/
def isZero : Binary64 → Bool
  | .finite _ significand _ => significand == 0
  | _ => false

/-- The number of opposite sign. -/
def neg : Binary64 → Binary64
  | .finite negative significand exponent => .finite (!negative) significand exponent
  | .infinite negative => .infinite (!negative)
  | .notANumber => .notANumber

/-- The rounded sum of two numbers. -/
def add (left right : Binary64) : Binary64 :=
  match left, right with
  | .notANumber, _ => .notANumber
  | _, .notANumber => .notANumber
  | .infinite leftNegative, .infinite rightNegative =>
    if leftNegative = rightNegative then .infinite leftNegative else .notANumber
  | .infinite negative, _ => .infinite negative
  | _, .infinite negative => .infinite negative
  | .finite leftNegative _ _, .finite rightNegative _ _ =>
    ofRat (leftNegative && rightNegative)
      (left.toRat?.getD 0 + right.toRat?.getD 0)

/-- The rounded product of two numbers. -/
def mul (left right : Binary64) : Binary64 :=
  let negative := left.isNegative != right.isNegative
  match left, right with
  | .notANumber, _ => .notANumber
  | _, .notANumber => .notANumber
  | .finite _ _ _, .finite _ _ _ =>
    ofRat negative (left.toRat?.getD 0 * right.toRat?.getD 0)
  | _, _ => if left.isZero || right.isZero then .notANumber else .infinite negative

/-- Whether a number is greater than zero. -/
def isPositive : Binary64 → Bool
  | .finite negative significand _ => !negative && significand != 0
  | .infinite negative => !negative
  | .notANumber => false

end Binary64
end Headroom
