import Headroom.Decimal.Reader

/-!
# Quantities of storage

A quantity is a decimal number with an optional suffix: a letter for a power of
one thousand, or a letter and an `i` for a power of 1024.  A number without a
suffix is taken as it stands; a suffixed one is computed to twenty-eight
significant digits.

A quantity counts whole bytes, so what is left of its fraction is dropped.
-/

namespace Headroom
namespace Quantity

/-- Why a text is no quantity of bytes. -/
inductive Error
  | invalidNumber (number : String)
  | unknownSuffix (quantity : String)
  | outOfRange (quantity : String)
  | notANumber
  | infinite
deriving DecidableEq, Repr

/-- The wording of an error, where it has one. -/
def Error.message? : Error → Option String
  | .invalidNumber number => some ("Invalid number format: " ++ number)
  | .unknownSuffix quantity => some (quantity ++ " has unknown suffix")
  | .outOfRange quantity => some ("Invalid quantity: " ++ quantity)
  | .notANumber => none
  | .infinite => none

/-- The power that a suffix letter stands for. -/
def power? : Char → Option Int
  | 'n' => some (-3)
  | 'u' => some (-2)
  | 'm' => some (-1)
  | 'k' => some 1
  | 'K' => some 1
  | 'M' => some 2
  | 'G' => some 3
  | 'T' => some 4
  | 'P' => some 5
  | 'E' => some 6
  | _ => none

/-- What a suffix multiplies by. -/
inductive Suffix
  | thousands (power : Int)
  | binary (letter : Char) (power : Int)
deriving DecidableEq, Repr

/-- The number and the suffix of which a quantity consists. -/
def split (quantity : List Char) : List Char × Option Suffix :=
  match quantity.reverse with
  | 'i' :: letter :: rest =>
    match power? letter with
    | some power => (rest.reverse, some (.binary letter power))
    | none => (quantity, none)
  | letter :: rest =>
    match power? letter with
    | some power => (rest.reverse, some (.thousands power))
    | none => (quantity, none)
  | [] => (quantity, none)

/-- The significant digits to which suffixed quantities are computed. -/
def precision : Nat := 28

/-- The greatest power of ten that a computed quantity may reach. -/
def greatestExponent : Int := 999999

/-- A number times the factor of its suffix, before rounding. -/
def Suffix.apply
    (number : FiniteDecimal) :
    Suffix → FiniteDecimal
  | .thousands power => number.shift (3 * power)
  | .binary _ power => number.scale (Nat.pow 1024 power.toNat)

/-- Whether a suffix is one of those in use: binary ones have capital letters. -/
def Suffix.isKnown : Suffix → Bool
  | .thousands _ => true
  | .binary letter _ => letter.isUpper

/-- The bytes of a suffixed finite number. -/
def suffixedBytes
    (quantity : List Char)
    (number : FiniteDecimal)
    (suffix : Suffix) :
    Except Error Int :=
  let rounded := (suffix.apply number).roundTo precision
  if rounded.coefficient ≠ 0 ∧ greatestExponent < rounded.leadingExponent then
    .error (.outOfRange (String.ofList quantity))
  else
    .ok rounded.truncate

/-- The whole bytes that a quantity denotes. -/
def bytes (quantity : List Char) : Except Error Int :=
  let (number, suffix) := split quantity
  match Decimal.read? number with
  | none => .error (.invalidNumber (String.ofList number))
  | some value =>
    match suffix with
    | none =>
      match value with
      | .finite exact => .ok exact.truncate
      | .infinite _ => .error .infinite
      | .notANumber _ => .error .notANumber
    | some suffix =>
      if suffix.isKnown then
        match value with
        | .finite exact => suffixedBytes quantity exact suffix
        | .infinite _ => .error .infinite
        | .notANumber true => .error (.outOfRange (String.ofList quantity))
        | .notANumber false => .error .notANumber
      else
        .error (.unknownSuffix (String.ofList quantity))

end Quantity
end Headroom
