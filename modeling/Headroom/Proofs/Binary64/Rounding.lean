import Headroom.Binary64.Basic
import Mathlib.Data.Int.Log
import Mathlib.Data.Rat.Floor
import Mathlib.Tactic.Linarith
import Mathlib.Tactic.NormNum
import Mathlib.Tactic.Ring

/-!
# Rounding to binary numbers

The value nearest to a positive one is a whole multiple of a power of two.  The exponent of
that power depends on the size of the value alone and grows with it, and the multiple is the
whole number nearest to the value in that unit.

So rounding keeps the order of values, and it leaves those values alone that have a short
significand, as the rounded ones have.  Rounding a sum is what adding numbers does.
-/

namespace Headroom

/-- A whole number is nearest to a value, and it is even if another one is just as near. -/
structure IsNearest
    (value : ℚ)
    (whole : ℕ) : Prop where
  le : value ≤ whole + 1 / 2
  ge : (whole : ℚ) ≤ value + 1 / 2
  even : value = whole + 1 / 2 ∨ (whole : ℚ) = value + 1 / 2 → Even whole

/-- A greater value is nearest to a whole number that is not less. -/
theorem IsNearest.mono
    {lesser greater : ℚ}
    {low high : ℕ}
    (lowNearest : IsNearest lesser low)
    (highNearest : IsNearest greater high)
    (le : lesser ≤ greater) :
    low ≤ high := by
  by_contra lt
  have step : (high : ℚ) + 1 ≤ low := by exact_mod_cast not_le.mp lt
  have lowGe := lowNearest.ge
  have highLe := highNearest.le
  -- Both values are half-way between two numbers that follow each other, and both are even.
  have low_eq : (low : ℚ) = lesser + 1 / 2 := by linarith
  have high_eq : greater = high + 1 / 2 := by linarith
  have next : low = high + 1 := by
    have next : (low : ℚ) = high + 1 := by linarith
    exact_mod_cast next
  have lowEven := lowNearest.even (.inr low_eq)
  have highEven := highNearest.even (.inl high_eq)
  rw [next, Nat.even_add_one] at lowEven
  exact lowEven highEven

theorem isNearest_natCast (whole : ℕ) : IsNearest whole whole where
  le := by linarith
  ge := by linarith
  even := by
    rintro (half | half) <;> linarith

/-- What is at most half-way above an even number, or less than half-way above another, is nearest
to it. -/
theorem isNearest_below
    {whole : ℕ}
    {part : ℚ}
    (nonneg : 0 ≤ part)
    (le_half : part ≤ 1 / 2)
    (tie : part = 1 / 2 → Even whole) :
    IsNearest (whole + part) whole where
  le := by linarith
  ge := by linarith
  even := by
    rintro (half | half)
    · exact tie (by linarith)
    · linarith

/-- What is at least half-way above an odd number, or more than half-way above another, is nearest
to the next one. -/
theorem isNearest_above
    {whole : ℕ}
    {part : ℚ}
    (half_le : 1 / 2 ≤ part)
    (le_one : part ≤ 1)
    (tie : part = 1 / 2 → ¬Even whole) :
    IsNearest (whole + part) (whole + 1 : ℕ) where
  le := by
    push_cast
    linarith
  ge := by
    push_cast
    linarith
  even := by
    push_cast
    rintro (half | half)
    · linarith
    · exact Nat.even_add_one.mpr (tie (by linarith))

/-- A quotient rounded to even is nearest to the exact one. -/
theorem isNearest_divideToEven
    (dividend : ℕ)
    {divisor : ℕ}
    (positive : 0 < divisor) :
    IsNearest (dividend / divisor) (divideToEven dividend divisor) := by
  have positive' : (0 : ℚ) < divisor := by exact_mod_cast positive
  have divided : (divisor : ℚ) * (dividend / divisor : ℕ) + (dividend % divisor : ℕ) = dividend :=
    by exact_mod_cast Nat.div_add_mod dividend divisor
  have quotient_eq : (dividend : ℚ) / divisor =
      (dividend / divisor : ℕ) + ((dividend % divisor : ℕ) : ℚ) / divisor := by
    rw [← divided]
    field_simp
  have rest_lt : dividend % divisor < divisor := Nat.mod_lt _ positive
  rw [quotient_eq]
  unfold divideToEven
  generalize dividend / divisor = quotient
  generalize dividend % divisor = rest at rest_lt ⊢
  have half_le : (1 : ℚ) / 2 ≤ rest / divisor ↔ divisor ≤ 2 * rest := by
    rw [div_le_div_iff₀ (by norm_num) positive', one_mul, mul_comm]
    exact_mod_cast Iff.rfl
  have le_half : (rest : ℚ) / divisor ≤ 1 / 2 ↔ 2 * rest ≤ divisor := by
    rw [div_le_div_iff₀ positive' (by norm_num), one_mul, mul_comm]
    exact_mod_cast Iff.rfl
  dsimp only
  split
  · rename_i up
    refine isNearest_above (half_le.mpr (by omega)) ?_ fun half => ?_
    · rw [div_le_one positive']
      exact_mod_cast rest_lt.le
    · have tie := le_half.mp half.le
      exact Nat.not_even_iff.mpr (by omega)
  · rename_i down
    refine isNearest_below (by positivity) (le_half.mpr (by omega)) fun half => ?_
    have tie := half_le.mp half.ge
    exact Nat.even_iff.mpr (by omega)

namespace Binary64

/-- The exponent of the unit to a multiple of which a value is rounded. -/
def exponentFor (value : ℚ) : ℤ :=
  max leastExponent (Int.log 2 value - (significandBits - 1))

section Exponents

variable {value lesser greater : ℚ}

theorem leastExponent_le_exponentFor (value : ℚ) : leastExponent ≤ exponentFor value :=
  le_max_left _ _

theorem exponentFor_mono
    (positive : 0 < lesser)
    (le : lesser ≤ greater) :
    exponentFor lesser ≤ exponentFor greater := by
  have logs := Int.log_mono_right (b := 2) positive le
  unfold exponentFor
  omega

/-- A value is below so many units as a significand has bits for. -/
theorem lt_zpow_exponentFor (value : ℚ) :
    value < 2 ^ (exponentFor value + significandBits) := by
  have log_le : Int.log 2 value + 1 ≤ exponentFor value + significandBits := by
    unfold exponentFor
    omega
  have lt : value < ((2 : ℕ) : ℚ) ^ (Int.log 2 value + 1) :=
    Int.lt_zpow_succ_log_self (by decide) value
  exact lt.trans_le (zpow_le_zpow_right₀ (by norm_num) log_le)

/-- A value whose unit is not the least one fills the significand. -/
theorem zpow_le_of_leastExponent_lt
    (positive : 0 < value)
    (more : leastExponent < exponentFor value) :
    2 ^ (exponentFor value + (significandBits - 1)) ≤ value := by
  have log_eq : exponentFor value + (significandBits - 1) = Int.log 2 value := by
    unfold exponentFor at more ⊢
    omega
  rw [log_eq]
  exact Int.zpow_log_le_self (b := 2) (by decide) positive

/-- A unit in which a value has a short significand is not less than the unit of the value. -/
theorem exponentFor_le
    {exponent : ℤ}
    (positive : 0 < value)
    (least_le : leastExponent ≤ exponent)
    (lt : value < 2 ^ (exponent + significandBits)) :
    exponentFor value ≤ exponent := by
  have log_lt : Int.log 2 value < exponent + significandBits :=
    (Int.lt_zpow_iff_log_lt (b := 2) (by decide) positive).mp lt
  unfold exponentFor
  omega

/-- The whole number of units nearest to a value fits into a significand, or is one too many. -/
theorem whole_le_pow_of_isNearest
    {whole : ℕ}
    (isNearest : IsNearest (value / 2 ^ exponentFor value) whole) :
    whole ≤ 2 ^ significandBits := by
  refine isNearest.mono (isNearest_natCast (2 ^ significandBits)) ?_
  have lt := (lt_zpow_exponentFor value).le
  rw [zpow_add₀ (by decide), mul_comm, zpow_natCast] at lt
  rw [div_le_iff₀ (zpow_pos (by decide) _)]
  exact_mod_cast lt

/-- Units that are not the least ones fill the significand. -/
theorem pow_le_whole_of_isNearest
    {whole : ℕ}
    (isNearest : IsNearest (value / 2 ^ exponentFor value) whole)
    (positive : 0 < value)
    (more : leastExponent < exponentFor value) :
    2 ^ (significandBits - 1) ≤ whole := by
  refine (isNearest_natCast (2 ^ (significandBits - 1))).mono isNearest ?_
  have le := zpow_le_of_leastExponent_lt positive more
  rw [zpow_add₀ (by decide), mul_comm] at le
  rw [le_div_iff₀ (zpow_pos (by decide) _)]
  exact_mod_cast le

end Exponents

section Fractions

variable {numerator denominator : ℕ}

/-- Dividing by a power of two divides the value by it. -/
theorem inUnits_spec
    (numerator : ℕ)
    (positive : 0 < denominator)
    (exponent : ℤ) :
    0 < (inUnits numerator denominator exponent).2 ∧
      ((inUnits numerator denominator exponent).1 : ℚ) /
          (inUnits numerator denominator exponent).2 =
        numerator / denominator / 2 ^ exponent := by
  unfold inUnits
  split
  · rename_i upwards
    obtain ⟨places, rfl⟩ := Int.eq_ofNat_of_zero_le upwards
    refine ⟨Nat.mul_pos positive (Nat.pow_pos (by decide)), ?_⟩
    simp only [Nat.pow_eq, Int.toNat_natCast]
    push_cast
    rw [zpow_natCast, div_div]
  · rename_i downwards
    obtain ⟨places, rfl⟩ : ∃ places : ℕ, exponent = -places := ⟨(-exponent).toNat, by omega⟩
    refine ⟨positive, ?_⟩
    simp only [Nat.pow_eq, neg_neg, Int.toNat_natCast]
    push_cast
    rw [zpow_neg, zpow_natCast, div_inv_eq_mul, div_mul_eq_mul_div]

/-- The difference of the lengths is the logarithm of a fraction or one more than that. -/
theorem log2_sub_log2_bounds
    (numerator_pos : 0 < numerator)
    (denominator_pos : 0 < denominator) :
    (2 : ℚ) ^ ((numerator.log2 : ℤ) - denominator.log2 - 1) < numerator / denominator ∧
      (numerator : ℚ) / denominator < 2 ^ ((numerator.log2 : ℤ) - denominator.log2 + 1) := by
  have positive : (0 : ℚ) < denominator := by exact_mod_cast denominator_pos
  have numerator_ge : (2 : ℚ) ^ (numerator.log2 : ℤ) ≤ numerator := by
    exact_mod_cast Nat.log2_self_le numerator_pos.ne'
  have numerator_lt : (numerator : ℚ) < 2 ^ ((numerator.log2 : ℤ) + 1) := by
    exact_mod_cast Nat.lt_log2_self
  have denominator_ge : (2 : ℚ) ^ (denominator.log2 : ℤ) ≤ denominator := by
    exact_mod_cast Nat.log2_self_le denominator_pos.ne'
  have denominator_lt : (denominator : ℚ) < 2 ^ ((denominator.log2 : ℤ) + 1) := by
    exact_mod_cast Nat.lt_log2_self
  generalize (numerator.log2 : ℤ) = above at *
  generalize (denominator.log2 : ℤ) = below at *
  constructor
  · rw [lt_div_iff₀ positive]
    calc
      (2 : ℚ) ^ (above - below - 1) * denominator
          < 2 ^ (above - below - 1) * 2 ^ (below + 1) :=
        mul_lt_mul_of_pos_left denominator_lt (zpow_pos (by decide) _)
      _ = 2 ^ above := by
        rw [← zpow_add₀ (by decide)]
        congr 1
        ring
      _ ≤ numerator := numerator_ge
  · rw [div_lt_iff₀ positive]
    calc
      (numerator : ℚ) < 2 ^ (above + 1) := numerator_lt
      _ = 2 ^ (above - below + 1) * 2 ^ below := by
        rw [← zpow_add₀ (by decide)]
        congr 1
        ring
      _ ≤ 2 ^ (above - below + 1) * denominator :=
        mul_le_mul_of_nonneg_left denominator_ge (zpow_nonneg (by decide) _)

/-- The exponent found for a fraction is that of the unit of its value. -/
theorem exponentOf_eq
    (numerator_pos : 0 < numerator)
    (denominator_pos : 0 < denominator) :
    exponentOf numerator denominator = exponentFor (numerator / denominator) := by
  obtain ⟨above, below⟩ := log2_sub_log2_bounds numerator_pos denominator_pos
  unfold exponentOf exponentFor
  generalize (numerator.log2 : ℤ) - denominator.log2 = estimate at above below
  obtain ⟨scaled_pos, scaled_eq⟩ :=
    inUnits_spec numerator denominator_pos estimate
  have positive : (0 : ℚ) < numerator / denominator := by positivity
  have less_iff :
      (inUnits numerator denominator estimate).1 < (inUnits numerator denominator estimate).2 ↔
        Int.log 2 ((numerator : ℚ) / denominator) < estimate := by
    rw [← Int.lt_zpow_iff_log_lt (by decide) positive, ← Nat.cast_lt (α := ℚ),
      ← div_lt_one (by exact_mod_cast scaled_pos), scaled_eq, div_lt_one (zpow_pos (by decide) _)]
    rfl
  have log_lt : Int.log 2 ((numerator : ℚ) / denominator) < estimate + 1 :=
    (Int.lt_zpow_iff_log_lt (b := 2) (by decide) positive).mp below
  have le_log : estimate - 1 ≤ Int.log 2 ((numerator : ℚ) / denominator) :=
    (Int.zpow_le_iff_le_log (b := 2) (by decide) positive).mp above.le
  dsimp only
  simp only [less_iff]
  split
  · congr 1
    omega
  · congr 1
    omega

theorem valueOf_eq
    (negative : Bool)
    (significand : ℕ)
    (exponent : ℤ) :
    valueOf negative significand exponent =
      if negative then -(significand * 2 ^ exponent : ℚ) else significand * 2 ^ exponent := by
  have magnitude_eq :
      mkRat (fraction significand exponent).1 (fraction significand exponent).2 =
        (significand * 2 ^ exponent : ℚ) := by
    rw [Rat.mkRat_eq_div]
    unfold fraction
    split
    · rename_i upwards
      obtain ⟨places, rfl⟩ := Int.eq_ofNat_of_zero_le upwards
      simp
    · rename_i downwards
      obtain ⟨places, rfl⟩ : ∃ places : ℕ, exponent = -places := ⟨(-exponent).toNat, by omega⟩
      simp [zpow_neg, div_eq_mul_inv]
  rw [← magnitude_eq]
  rfl

/-- A fraction is rounded to a multiple of its unit, and the significand found is short. -/
theorem roundFraction_spec
    (numerator_pos : 0 < numerator)
    (denominator_pos : 0 < denominator) :
    let value : ℚ := numerator / denominator
    let rounded := roundFraction numerator denominator
    (∃ whole : ℕ,
        IsNearest (value / 2 ^ exponentFor value) whole ∧
          (rounded.1 * 2 ^ rounded.2 : ℚ) = whole * 2 ^ exponentFor value) ∧
      rounded.1 < 2 ^ significandBits ∧ leastExponent ≤ rounded.2 := by
  intro value rounded
  obtain ⟨scaled_pos, scaled_eq⟩ :=
    inUnits_spec numerator denominator_pos (exponentFor value)
  have isNearest :=
    isNearest_divideToEven (inUnits numerator denominator (exponentFor value)).1 scaled_pos
  rw [scaled_eq] at isNearest
  have least_le := leastExponent_le_exponentFor value
  have rounded_eq : rounded = roundFraction numerator denominator := rfl
  unfold roundFraction at rounded_eq
  rw [exponentOf_eq numerator_pos denominator_pos] at rounded_eq
  dsimp only at rounded_eq
  split at rounded_eq
  · rename_i full
    refine ⟨⟨_, isNearest, ?_⟩, ?_, ?_⟩
    · rw [full, rounded_eq, zpow_add₀ (by decide), zpow_one]
      simp only [significandBits, Nat.pow_eq]
      push_cast
      ring
    · rw [rounded_eq]
      exact Nat.pow_lt_pow_right (by decide) (by decide)
    · rw [rounded_eq]
      exact least_le.trans (Int.le_add_one le_rfl)
  · rename_i short
    refine ⟨⟨_, isNearest, by rw [rounded_eq]⟩, ?_, ?_⟩
    · rw [rounded_eq]
      exact lt_of_le_of_ne (whole_le_pow_of_isNearest isNearest) short
    · rw [rounded_eq]
      exact least_le

end Fractions

/-- A value that a number could have if there were no greatest exponent. -/
def IsBinary (value : ℚ) : Prop :=
  ∃ (significand : ℕ) (exponent : ℤ),
    significand < 2 ^ significandBits ∧ leastExponent ≤ exponent ∧
      |value| = significand * 2 ^ exponent

section Nearest

variable {value lesser greater : ℚ}

@[simp] theorem nearest_zero : nearest 0 = 0 := rfl

/-- The sign of a value has no part in its rounding. -/
theorem nearest_neg (value : ℚ) : nearest (-value) = -nearest value := by
  by_cases zero : value = 0
  · rw [zero, neg_zero, nearest_zero, neg_zero]
  · have nonzero : -value ≠ 0 := neg_ne_zero.mpr zero
    have sizes : (-value).num.natAbs = value.num.natAbs := by
      rw [Rat.num_neg_eq_neg_num, Int.natAbs_neg]
    unfold nearest
    rw [if_neg zero, if_neg nonzero, sizes, Rat.den_neg_eq_den]
    simp only [valueOf_eq, decide_eq_true_eq]
    rcases lt_or_gt_of_ne zero with negative | positive
    · rw [if_neg (by linarith), if_pos negative, neg_neg]
    · rw [if_pos (by linarith), if_neg (by linarith)]

/-- A positive value is rounded to a multiple of its unit, which has a short significand. -/
theorem nearest_of_pos (positive : 0 < value) :
    (∃ whole : ℕ,
        IsNearest (value / 2 ^ exponentFor value) whole ∧
          nearest value = whole * 2 ^ exponentFor value) ∧
      IsBinary (nearest value) := by
  have numerator_pos : 0 < value.num.natAbs := by
    have positive := Rat.num_pos.mpr positive
    omega
  have fraction_eq : ((value.num.natAbs : ℕ) : ℚ) / (value.den : ℕ) = value := by
    have size : ((value.num.natAbs : ℕ) : ℤ) = value.num :=
      Int.natAbs_of_nonneg (Rat.num_nonneg.mpr positive.le)
    rw [← Int.cast_natCast, size, Rat.num_div_den]
  obtain ⟨⟨whole, isNearest, rounded_eq⟩, short, least_le⟩ :=
    roundFraction_spec numerator_pos value.den_pos
  rw [fraction_eq] at isNearest rounded_eq
  have nearest_eq : nearest value =
      (roundFraction value.num.natAbs value.den).1 *
        2 ^ (roundFraction value.num.natAbs value.den).2 := by
    unfold nearest
    rw [if_neg positive.ne']
    simp only [valueOf_eq, decide_eq_true_eq]
    rw [if_neg (by linarith)]
  refine ⟨⟨whole, isNearest, nearest_eq.trans rounded_eq⟩, _, _, short, least_le, ?_⟩
  rw [nearest_eq]
  exact abs_of_nonneg (mul_nonneg (Nat.cast_nonneg _) (zpow_nonneg (by decide) _))

theorem nearest_nonneg (nonneg : 0 ≤ value) : 0 ≤ nearest value := by
  rcases nonneg.eq_or_lt with rfl | positive
  · exact le_rfl
  · obtain ⟨⟨whole, -, nearest_eq⟩, -⟩ := nearest_of_pos positive
    rw [nearest_eq]
    exact mul_nonneg (Nat.cast_nonneg _) (zpow_nonneg (by decide) _)

/-- Rounding keeps the order of positive values. -/
theorem nearest_le_nearest_of_pos
    (positive : 0 < lesser)
    (le : lesser ≤ greater) :
    nearest lesser ≤ nearest greater := by
  obtain ⟨⟨low, lowNearest, low_eq⟩, -⟩ := nearest_of_pos positive
  obtain ⟨⟨high, highNearest, high_eq⟩, -⟩ := nearest_of_pos (positive.trans_le le)
  have unit_pos (exponent : ℤ) : (0 : ℚ) < 2 ^ exponent := zpow_pos (by decide) exponent
  rw [low_eq, high_eq]
  rcases (exponentFor_mono positive le).eq_or_lt with same | less
  · rw [same] at lowNearest ⊢
    have whole_le : low ≤ high :=
      lowNearest.mono highNearest (div_le_div_of_nonneg_right le (unit_pos _).le)
    exact mul_le_mul_of_nonneg_right (by exact_mod_cast whole_le) (unit_pos _).le
  · -- A power of two lies between values with different units.
    have more := (leastExponent_le_exponentFor lesser).trans_lt less
    have low_le := whole_le_pow_of_isNearest lowNearest
    have le_high := pow_le_whole_of_isNearest highNearest (positive.trans_le le) more
    calc
      (low : ℚ) * 2 ^ exponentFor lesser
          ≤ (2 ^ significandBits : ℕ) * 2 ^ exponentFor lesser :=
        mul_le_mul_of_nonneg_right (by exact_mod_cast low_le) (unit_pos _).le
      _ = (2 ^ (significandBits - 1) : ℕ) * 2 ^ (exponentFor lesser + 1) := by
        rw [zpow_add₀ (by decide), zpow_one]
        simp only [significandBits]
        push_cast
        ring
      _ ≤ (2 ^ (significandBits - 1) : ℕ) * 2 ^ exponentFor greater :=
        mul_le_mul_of_nonneg_left (zpow_le_zpow_right₀ (by decide) (by omega)) (Nat.cast_nonneg _)
      _ ≤ high * 2 ^ exponentFor greater :=
        mul_le_mul_of_nonneg_right (by exact_mod_cast le_high) (unit_pos _).le

/-- Rounding keeps the order of values. -/
theorem nearest_mono : Monotone nearest := by
  intro lesser greater le
  rcases lt_or_ge 0 lesser with positive | nonpos
  · exact nearest_le_nearest_of_pos positive le
  rcases lt_or_ge greater 0 with negative | nonneg
  · have swapped := nearest_le_nearest_of_pos (neg_pos.mpr negative) (neg_le_neg le)
    rw [nearest_neg, nearest_neg] at swapped
    exact neg_le_neg_iff.mp swapped
  · have below := nearest_nonneg (neg_nonneg.mpr nonpos)
    rw [nearest_neg] at below
    exact (neg_nonneg.mp below).trans (nearest_nonneg nonneg)

theorem isBinary_nearest (value : ℚ) : IsBinary (nearest value) := by
  rcases lt_trichotomy value 0 with negative | rfl | positive
  · obtain ⟨-, significand, exponent, short, least_le, size_eq⟩ :=
      nearest_of_pos (neg_pos.mpr negative)
    rw [nearest_neg, abs_neg] at size_eq
    exact ⟨significand, exponent, short, least_le, size_eq⟩
  · exact ⟨0, leastExponent, Nat.pow_pos (by decide), le_rfl, by simp⟩
  · exact (nearest_of_pos positive).2

/-- A positive value with a short significand is rounded to itself. -/
theorem nearest_eq_self_of_pos
    (positive : 0 < value)
    (binary : IsBinary value) :
    nearest value = value := by
  obtain ⟨significand, exponent, short, least_le, size_eq⟩ := binary
  rw [abs_of_pos positive] at size_eq
  have lt : value < 2 ^ (exponent + significandBits) := by
    rw [size_eq, zpow_add₀ (by decide), mul_comm, zpow_natCast]
    exact mul_lt_mul_of_pos_left (by exact_mod_cast short) (zpow_pos (by decide) _)
  obtain ⟨places, exponent_eq⟩ := Int.le.dest (exponentFor_le positive least_le lt)
  have unit_pos : (0 : ℚ) < 2 ^ exponentFor value := zpow_pos (by decide) _
  have units : value / 2 ^ exponentFor value = (significand * 2 ^ places : ℕ) := by
    have power : (2 : ℚ) ^ exponent = 2 ^ exponentFor value * 2 ^ places := by
      rw [← exponent_eq, zpow_add₀ (by decide), zpow_natCast]
    rw [div_eq_iff unit_pos.ne', Nat.cast_mul, Nat.cast_pow, Nat.cast_ofNat, mul_assoc,
      mul_comm (2 ^ places : ℚ), ← power, ← size_eq]
  obtain ⟨⟨whole, isNearest, nearest_eq⟩, -⟩ := nearest_of_pos positive
  rw [units] at isNearest
  have itself := isNearest_natCast (significand * 2 ^ places)
  have whole_eq : whole = significand * 2 ^ places :=
    (isNearest.mono itself le_rfl).antisymm (itself.mono isNearest le_rfl)
  rw [nearest_eq, whole_eq, ← units, div_mul_cancel₀ _ unit_pos.ne']

/-- Exactly the values that numbers have are rounded to themselves. -/
theorem nearest_eq_self_iff : nearest value = value ↔ IsBinary value := by
  constructor
  · intro same
    rw [← same]
    exact isBinary_nearest value
  · intro binary
    rcases lt_trichotomy value 0 with negative | rfl | positive
    · have opposite : IsBinary (-value) := by rwa [IsBinary, abs_neg]
      have same := nearest_eq_self_of_pos (neg_pos.mpr negative) opposite
      rw [nearest_neg] at same
      exact neg_inj.mp same
    · rfl
    · exact nearest_eq_self_of_pos positive binary

/-- What was rounded once stays as it is. -/
@[simp] theorem nearest_nearest (value : ℚ) : nearest (nearest value) = nearest value :=
  nearest_eq_self_iff.mpr (isBinary_nearest value)

/-- A rounded number is infinite or has the nearest value. -/
theorem toRat?_ofRat
    (zeroNegative : Bool)
    (value : ℚ) :
    ofRat zeroNegative value = .infinite (value < 0) ∨
      (ofRat zeroNegative value).toRat? = some (nearest value) := by
  unfold ofRat nearest
  split
  · right
    simp [toRat?, valueOf_eq]
  · rename_i nonzero
    have numerator_ne : value.num.natAbs ≠ 0 := by
      rw [Int.natAbs_ne_zero]
      exact Rat.num_ne_zero.mpr nonzero
    unfold ofFraction
    rw [if_neg numerator_ne]
    dsimp only
    split
    · exact .inl rfl
    · exact .inr rfl

/-- The sum of two numbers is infinite or has the value nearest to the exact sum. -/
theorem toRat?_add
    {left right : Binary64}
    {first second : ℚ}
    (left_eq : left.toRat? = some first)
    (right_eq : right.toRat? = some second) :
    left.add right = .infinite (first + second < 0) ∨
      (left.add right).toRat? = some (nearest (first + second)) := by
  match left, right with
  | .finite leftNegative _ _, .finite rightNegative _ _ =>
      have sum := toRat?_ofRat (leftNegative && rightNegative) (first + second)
      unfold add
      dsimp only
      rwa [left_eq, right_eq]
  | .infinite _, _ => cases left_eq
  | .notANumber, _ => cases left_eq
  | _, .infinite _ => cases right_eq
  | _, .notANumber => cases right_eq

end Nearest
end Binary64
end Headroom
