import Headroom.Decimal.Basic
import Mathlib.Algebra.Order.Field.Power
import Mathlib.Data.Rat.Floor
import Mathlib.Tactic.Ring

/-!
# The values of decimal numbers

A finite decimal number has a rational value, and computing with numbers is computing with
their values.  A number that is not negative loses its fraction by being rounded down.

Rounding to a precision changes nothing if the value has no more significant digits than that.
It may have been written with more of them, all of the additional ones being zeros at the end.
-/

namespace Headroom

section Digits

theorem digitCount_of_lt
    {value : Nat}
    (small : value < 10) :
    digitCount value = 1 := by
  rw [digitCount, Nat.toDigits_of_lt_base small]
  rfl

theorem digitCount_of_le
    {value : Nat}
    (large : 10 ≤ value) :
    digitCount value = digitCount (value / 10) + 1 := by
  rw [digitCount, Nat.toDigits_of_base_le (by decide) large, List.length_append]
  rfl

theorem digitCount_pos (value : Nat) : 0 < digitCount value := by
  by_cases small : value < 10
  · rw [digitCount_of_lt small]
    decide
  · rw [digitCount_of_le (by omega)]
    omega

/-- A number has as many digits as powers of ten are needed to exceed it. -/
theorem digitCount_le_iff
    {value count : Nat}
    (positive : 0 < count) :
    digitCount value ≤ count ↔ value < 10 ^ count := by
  induction count, positive using Nat.le_induction generalizing value with
  | base =>
      by_cases small : value < 10
      · simp [digitCount_of_lt small, small]
      · have more := digitCount_pos (value / 10)
        rw [digitCount_of_le (by omega)]
        omega
  | succ count positive inductionHypothesis =>
      by_cases small : value < 10
      · have power_le : 10 ^ 1 ≤ 10 ^ (count + 1) := Nat.pow_le_pow_right (by decide) (by omega)
        rw [digitCount_of_lt small]
        omega
      · rw [digitCount_of_le (by omega), Nat.add_le_add_iff_right, inductionHypothesis,
          Nat.div_lt_iff_lt_mul (by decide), ← Nat.pow_succ]

theorem lt_pow_digitCount (value : Nat) : value < 10 ^ digitCount value :=
  (digitCount_le_iff (digitCount_pos value)).mp le_rfl

theorem digitCount_le_of_lt_pow
    {value count : Nat}
    (nonzero : value ≠ 0)
    (small : value < 10 ^ count) :
    digitCount value ≤ count := by
  have positive : 0 < count := by
    rcases Nat.eq_zero_or_pos count with rfl | positive
    · exact (nonzero (Nat.lt_one_iff.mp small)).elim
    · exact positive
  exact (digitCount_le_iff positive).mpr small

theorem pow_digitCount_le
    {value : Nat}
    (nonzero : value ≠ 0) :
    10 ^ (digitCount value - 1) ≤ value := by
  have positive := digitCount_pos value
  by_contra small
  have fewer := digitCount_le_of_lt_pow nonzero (lt_of_not_ge small)
  omega

end Digits

theorem divideToEven_of_dvd
    {dividend divisor : Nat}
    (positive : 0 < divisor)
    (divides : divisor ∣ dividend) :
    divideToEven dividend divisor = dividend / divisor := by
  have rest : dividend % divisor = 0 := Nat.mod_eq_zero_of_dvd divides
  have noRest : ¬(divisor < 0 ∨ (0 = divisor ∧ dividend / divisor % 2 = 1)) := by omega
  simp only [divideToEven, rest, Nat.mul_zero, if_neg noRest]

/-- A value has no more significant digits than a given count. -/
def HasDigits
    (count : Nat)
    (value : ℚ) : Prop :=
  ∃ (coefficient : Nat) (exponent : Int),
    coefficient < 10 ^ count ∧ |value| = coefficient * 10 ^ exponent

namespace FiniteDecimal

/-- The size of a number, without regard to its sign. -/
def magnitude (number : FiniteDecimal) : ℚ :=
  number.coefficient * 10 ^ number.exponent

/-- The value of a number. -/
def toRat (number : FiniteDecimal) : ℚ :=
  if number.negative then -number.magnitude else number.magnitude

section Values

variable (number : FiniteDecimal)

theorem magnitude_nonneg : 0 ≤ number.magnitude :=
  mul_nonneg (Nat.cast_nonneg _) (zpow_nonneg (by decide) _)

theorem abs_toRat : |number.toRat| = number.magnitude := by
  have nonneg := number.magnitude_nonneg
  unfold toRat
  split
  · rw [abs_neg, abs_of_nonneg nonneg]
  · exact abs_of_nonneg nonneg

variable {number} in
theorem toRat_of_nonneg (nonneg : 0 ≤ number.toRat) : number.toRat = number.magnitude := by
  rw [← abs_toRat, abs_of_nonneg nonneg]

@[simp] theorem toRat_shift (places : Int) :
    (number.shift places).toRat = number.toRat * 10 ^ places := by
  have powers : (10 : ℚ) ^ (number.exponent + places) = 10 ^ number.exponent * 10 ^ places :=
    zpow_add₀ (by decide) _ _
  unfold toRat magnitude shift
  dsimp only
  rw [powers]
  split <;> ring

@[simp] theorem toRat_scale (factor : Nat) :
    (number.scale factor).toRat = number.toRat * factor := by
  unfold toRat magnitude scale
  push_cast
  split <;> ring

theorem magnitude_eq_zero_iff : number.magnitude = 0 ↔ number.coefficient = 0 := by
  have power : (10 : ℚ) ^ number.exponent ≠ 0 := zpow_ne_zero _ (by decide)
  simp [magnitude, power]

/-- The leading digit of a number determines between which powers of ten it is. -/
theorem lt_leadingExponent_iff
    (nonzero : number.coefficient ≠ 0)
    (bound : Int) :
    bound < number.leadingExponent ↔ 10 ^ (bound + 1) ≤ number.magnitude := by
  have one_lt : (1 : ℚ) < 10 := by decide
  have power_pos : (0 : ℚ) < 10 ^ number.exponent := zpow_pos (by decide) _
  have positive := digitCount_pos number.coefficient
  constructor
  · intro above
    have below : bound + 1 ≤ ((digitCount number.coefficient - 1 : Nat) : Int) + number.exponent := by
      unfold leadingExponent at above
      omega
    have leading : (10 : ℚ) ^ (digitCount number.coefficient - 1) ≤ number.coefficient := by
      exact_mod_cast pow_digitCount_le nonzero
    calc (10 : ℚ) ^ (bound + 1)
      _ ≤ 10 ^ (((digitCount number.coefficient - 1 : Nat) : Int) + number.exponent) :=
          zpow_le_zpow_right₀ one_lt.le below
      _ = 10 ^ (digitCount number.coefficient - 1) * 10 ^ number.exponent := by
          rw [zpow_add₀ (by decide), zpow_natCast]
      _ ≤ number.magnitude := mul_le_mul_of_nonneg_right leading power_pos.le
  · intro reached
    have all : (number.coefficient : ℚ) < 10 ^ digitCount number.coefficient := by
      exact_mod_cast lt_pow_digitCount number.coefficient
    have exceeded : (10 : ℚ) ^ (bound + 1) <
        10 ^ ((digitCount number.coefficient : Int) + number.exponent) := by
      calc (10 : ℚ) ^ (bound + 1)
        _ ≤ number.magnitude := reached
        _ < 10 ^ digitCount number.coefficient * 10 ^ number.exponent :=
            mul_lt_mul_of_pos_right all power_pos
        _ = 10 ^ ((digitCount number.coefficient : Int) + number.exponent) := by
            rw [zpow_add₀ (by decide), zpow_natCast]
    have below := (zpow_lt_zpow_iff_right₀ one_lt).mp exceeded
    unfold leadingExponent
    omega

end Values

section Wholes

variable {number : FiniteDecimal}

theorem wholeMagnitude_of_exponent_eq_neg
    {places : Nat}
    (exponent_eq : number.exponent = -(places : Int)) :
    number.wholeMagnitude = number.coefficient / 10 ^ places := by
  unfold wholeMagnitude
  rw [exponent_eq]
  split
  · have none : places = 0 := by omega
    simp [none]
  · split
    · rename_i few
      have small : number.coefficient < 10 ^ places := by
        refine (lt_pow_digitCount _).trans_le (Nat.pow_le_pow_right (by decide) ?_)
        omega
      rw [Nat.div_eq_of_lt small]
    · simp

/-- Without its fraction the size of a number is rounded down. -/
theorem wholeMagnitude_eq_floor : (number.wholeMagnitude : Int) = ⌊number.magnitude⌋ := by
  obtain ⟨places, exponent_eq | exponent_eq⟩ := Int.eq_nat_or_neg number.exponent
  · have whole : number.wholeMagnitude = number.coefficient * 10 ^ places := by
      simp [wholeMagnitude, exponent_eq]
    have value_eq : number.magnitude = ((number.coefficient * 10 ^ places : Nat) : ℚ) := by
      rw [magnitude, exponent_eq, zpow_natCast]
      push_cast
      rfl
    rw [whole, value_eq, Int.floor_natCast]
  · have value_eq : number.magnitude = (number.coefficient : ℚ) / ((10 ^ places : Nat) : ℚ) := by
      rw [magnitude, exponent_eq, zpow_neg, zpow_natCast, div_eq_mul_inv]
      push_cast
      rfl
    rw [wholeMagnitude_of_exponent_eq_neg exponent_eq, value_eq, Rat.floor_natCast_div_natCast,
      Int.natCast_div]

/-- A number that is not negative is rounded down. -/
theorem truncate_eq_floor (nonneg : 0 ≤ number.toRat) : number.truncate = ⌊number.toRat⌋ := by
  unfold truncate
  rw [wholeMagnitude_eq_floor, toRat_of_nonneg nonneg]
  split
  · rename_i negative
    have zero : number.magnitude = 0 := by
      rw [toRat, if_pos negative] at nonneg
      exact le_antisymm (by linarith) number.magnitude_nonneg
    simp [zero]
  · rfl

end Wholes

section Rounding

variable {number : FiniteDecimal} {precision : Nat}

/-- The digits that a number has in excess of its significant ones are zeros. -/
theorem pow_dvd_coefficient
    (hasDigits : HasDigits precision number.toRat) :
    10 ^ (digitCount number.coefficient - precision) ∣ number.coefficient := by
  obtain ⟨coefficient, exponent, few, value_eq⟩ := hasDigits
  rw [abs_toRat, magnitude] at value_eq
  have power_ne : (10 : ℚ) ^ number.exponent ≠ 0 := zpow_ne_zero _ (by decide)
  rcases eq_or_ne number.coefficient 0 with zero | nonzero
  · rw [zero]
    exact dvd_zero _
  obtain ⟨places, more | less⟩ : ∃ places : Nat,
      exponent = number.exponent + places ∨ exponent + places = number.exponent := by
    obtain ⟨places, sum | difference⟩ := Int.eq_nat_or_neg (exponent - number.exponent)
    · exact ⟨places, .inl (by omega)⟩
    · exact ⟨places, .inr (by omega)⟩
  · -- The number is written with additional zeros.
    have padded : number.coefficient = coefficient * 10 ^ places := by
      rw [more, zpow_add₀ (by decide), zpow_natCast, mul_left_comm, mul_comm] at value_eq
      exact_mod_cast mul_left_cancel₀ power_ne value_eq
    have small : number.coefficient < 10 ^ (precision + places) := by
      rw [padded, Nat.pow_add]
      exact Nat.mul_lt_mul_of_pos_right few (Nat.pow_pos (by decide))
    have excess_le : digitCount number.coefficient - precision ≤ places := by
      have bound := digitCount_le_of_lt_pow nonzero small
      omega
    rw [padded] at excess_le ⊢
    exact dvd_mul_of_dvd_right (Nat.pow_dvd_pow 10 excess_le) coefficient
  · -- The number is written with no more digits than are significant.
    have power_ne : (10 : ℚ) ^ exponent ≠ 0 := zpow_ne_zero _ (by decide)
    have scaled : number.coefficient * 10 ^ places = coefficient := by
      rw [← less, zpow_add₀ (by decide), zpow_natCast, mul_left_comm, mul_comm _ (_ ^ exponent)]
        at value_eq
      exact_mod_cast mul_left_cancel₀ power_ne value_eq
    have small : number.coefficient < 10 ^ precision :=
      (Nat.le_mul_of_pos_right _ (Nat.pow_pos (by decide))).trans_lt (scaled.trans_lt few)
    have bound := digitCount_le_of_lt_pow nonzero small
    rw [Nat.sub_eq_zero_of_le bound, Nat.pow_zero]
    exact one_dvd _

/-- Rounding to a precision does not change values that have no more significant digits. -/
theorem toRat_roundTo (hasDigits : HasDigits precision number.toRat) :
    (number.roundTo precision).toRat = number.toRat := by
  have divides := pow_dvd_coefficient hasDigits
  have positive : 0 < 10 ^ (digitCount number.coefficient - precision) := Nat.pow_pos (by decide)
  unfold roundTo
  dsimp only
  split
  · rfl
  · generalize digitCount number.coefficient - precision = excess at divides positive ⊢
    have size_eq : ((number.coefficient / 10 ^ excess : Nat) : ℚ) * 10 ^ excess =
        number.coefficient := by
      exact_mod_cast Nat.div_mul_cancel divides
    have power : (10 : ℚ) ^ (number.exponent + (excess : Int)) =
        10 ^ excess * 10 ^ number.exponent := by
      rw [add_comm, zpow_add₀ (by decide), zpow_natCast]
    simp only [toRat, magnitude, Nat.pow_eq, divideToEven_of_dvd positive divides, power,
      ← mul_assoc, size_eq]

end Rounding

end FiniteDecimal
end Headroom
