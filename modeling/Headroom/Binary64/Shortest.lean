import Headroom.Binary64.Basic

/-!
# Shortest decimal notation

A binary number is written with the fewest decimal digits that still single it
out among its neighbours, and of the decimals with so few digits the nearest is
taken.  A decimal singles a number out when it lies in the interval that rounds
to the number; the ends of the interval belong to it when the significand is
even.

The notation is positional from `0.0001` up to `10 ^ 16`, and in powers of ten
outside.  A whole number keeps one zero after the point.
-/

namespace Headroom
namespace Binary64

/-- A rational power of ten. -/
def tenTo (exponent : Int) : Rat :=
  if 0 ≤ exponent then ((Nat.pow 10 exponent.toNat : Nat) : Rat)
  else mkRat 1 (Nat.pow 10 (-exponent).toNat)

/-- A rational power of two. -/
def twoTo (exponent : Int) : Rat :=
  if 0 ≤ exponent then ((Nat.pow 2 exponent.toNat : Nat) : Rat)
  else mkRat 1 (Nat.pow 2 (-exponent).toNat)

/-- The power of ten of the leading digit of a positive number. -/
def leadingPower (value : Rat) : Int :=
  let estimate := (digitCount value.num.natAbs : Int) - digitCount value.den
  if value < tenTo estimate then estimate - 1 else estimate

/-- The interval of the positive numbers that round to a significand and an exponent. -/
def roundingInterval
    (significand : Nat)
    (exponent : Int) : Rat × Rat :=
  let value := (significand : Rat) * twoTo exponent
  let above := twoTo (exponent - 1)
  let below :=
    if significand = Nat.pow 2 (significandBits - 1) ∧ leastExponent < exponent then
      twoTo (exponent - 2)
    else above
  (value - below, value + above)

/-- Whether a decimal rounds to a significand and an exponent. -/
def roundsTo
    (significand : Nat)
    (exponent : Int)
    (candidate : Rat) : Bool :=
  let (low, high) := roundingInterval significand exponent
  if significand % 2 = 0 then low ≤ candidate && candidate ≤ high
  else low < candidate && candidate < high

/-- The nearer of the two decimals beside a value on a grid, of those that round to it. -/
def onGrid?
    (significand : Nat)
    (exponent spacing : Int) :
    Option Nat :=
  let value := (significand : Rat) * twoTo exponent
  let scaled := value / tenTo spacing
  let below := scaled.floor.toNat
  let belowHits := roundsTo significand exponent ((below : Rat) * tenTo spacing)
  let aboveHits := roundsTo significand exponent (((below + 1 : Nat) : Rat) * tenTo spacing)
  let rest := scaled - (below : Rat)
  let half := mkRat 1 2
  if belowHits && (!aboveHits || rest < half || (rest = half && below % 2 = 0)) then some below
  else if aboveHits then some (below + 1)
  else none

/-- The digits and the spacing of the coarsest grid that has a decimal for a number. -/
def shortestFrom
    (significand : Nat)
    (exponent leading : Int)
    (digits : Nat) :
    Nat → Nat × Int
  | 0 => (significand, 0)
  | attempts + 1 =>
    let spacing := leading - (digits : Int) + 1
    match onGrid? significand exponent spacing with
    | some decimal => (decimal, spacing)
    | none => shortestFrom significand exponent leading (digits + 1) attempts

/-- The fewest digits that single out a positive number, and the power of ten of the last. -/
def shortest
    (significand : Nat)
    (exponent : Int) : Nat × Int :=
  shortestFrom significand exponent
    (leadingPower ((significand : Rat) * twoTo exponent)) 1 20

/-- Digits without the zeros at their end, and how many those are. -/
def withoutTrailingZeros (digits : List Char) : List Char × Nat :=
  let kept := (digits.reverse.dropWhile (· = '0')).reverse
  (kept, digits.length - kept.length)

/-- An exponent with its sign and at least two digits. -/
def exponentText (exponent : Int) : List Char :=
  let digits := Nat.toDigits 10 exponent.natAbs
  (if exponent < 0 then '-' else '+') ::
    (if digits.length < 2 then '0' :: digits else digits)

/-- The notation of digits whose first one has the given power of ten. -/
def spelled
    (digits : List Char)
    (leading : Int) :
    List Char :=
  if -4 ≤ leading ∧ leading < 0 then
    '0' :: '.' :: List.replicate (-leading - 1).toNat '0' ++ digits
  else if 0 ≤ leading ∧ leading < 16 then
    let whole := leading.toNat + 1
    let padded := digits ++ List.replicate (whole - digits.length) '0'
    let fraction := padded.drop whole
    padded.take whole ++ '.' :: (if fraction.isEmpty then ['0'] else fraction)
  else
    match digits with
    | [] => []
    | first :: rest =>
      let fraction := if rest.isEmpty then [] else '.' :: rest
      first :: fraction ++ 'e' :: exponentText leading

/-- The notation of a positive finite number. -/
def positiveText
    (significand : Nat)
    (exponent : Int) :
    List Char :=
  let (decimal, spacing) := shortest significand exponent
  let (digits, zeros) := withoutTrailingZeros (Nat.toDigits 10 decimal)
  spelled digits (spacing + zeros + digits.length - 1)

/-- The notation of a number. -/
def text : Binary64 → List Char
  | .finite negative significand exponent =>
    let body := if significand = 0 then "0.0".toList else positiveText significand exponent
    if negative then '-' :: body else body
  | .infinite negative => if negative then "-inf".toList else "inf".toList
  | .notANumber => "nan".toList

end Binary64
end Headroom
