import Headroom.Quantity
import Headroom.Proofs.Decimal.Reader
import Mathlib.Tactic.NormNum

/-!
# What quantities denote

A quantity denotes the value of its number times the factor of its suffix.  The whole bytes of a
quantity are that value rounded down, if it is not negative and has no more significant digits
than are computed.  Only suffixed quantities can be too great for that, and they are refused.
-/

namespace Headroom
namespace Quantity

/-- What a suffix multiplies by. -/
def Suffix.factor : Suffix → ℚ
  | .thousands power => 1000 ^ power
  | .binary _ power => 1024 ^ power

/-- The exact value that a quantity denotes: that of its number, times the factor of its suffix. -/
def value? (quantity : List Char) : Option ℚ :=
  let (number, suffix) := split quantity
  match Decimal.read? number, suffix with
  | some (.finite number), none => some number.toRat
  | some (.finite number), some suffix =>
    if suffix.isKnown then some (number.toRat * suffix.factor) else none
  | _, _ => none

/-- The exact value of a quantity that denotes one. -/
def value (quantity : List Char) : ℚ :=
  (value? quantity).getD 0

/-- A well-formed and finite quantity that is not negative and has no more significant digits than
are computed. -/
structure IsExact (quantity : List Char) : Prop where
  wellFormed : (value? quantity).isSome = true
  nonneg : 0 ≤ value quantity
  hasDigits : HasDigits precision (value quantity)

/-- A quantity that is computed, and is too great for that. -/
def IsTooGreat (quantity : List Char) : Prop :=
  (split quantity).2 ≠ none ∧ 10 ^ (greatestExponent + 1) ≤ value quantity

/-- Values below a power of ten that is within reach are not too great. -/
theorem not_isTooGreat_of_lt
    {quantity : List Char}
    {exponent : Int}
    (withinReach : exponent ≤ greatestExponent + 1)
    (small : value quantity < 10 ^ exponent) :
    ¬IsTooGreat quantity := by
  rintro ⟨-, reached⟩
  have powers : (10 : ℚ) ^ exponent ≤ 10 ^ (greatestExponent + 1) :=
    zpow_le_zpow_right₀ (by norm_num) withinReach
  linarith

/-- The letters of binary suffixes stand for positive powers. -/
theorem power_pos
    {letter : Char}
    {power : Int}
    (stands : power? letter = some power)
    (isUpper : letter.isUpper = true) :
    0 < power := by
  unfold power? at stands
  split at stands <;> cases stands <;> first | decide | cases isUpper

theorem power?_of_split
    {quantity number : List Char}
    {letter : Char}
    {power : Int}
    (parts : split quantity = (number, some (.binary letter power))) :
    power? letter = some power := by
  unfold split at parts
  split at parts
  · split at parts
    · rename_i stands
      cases parts
      exact stands
    · cases parts
  · split at parts <;> cases parts
  · cases parts

/-- Applying the suffix of a quantity multiplies by its factor. -/
theorem toRat_apply
    {quantity number : List Char}
    {suffix : Suffix}
    (parts : split quantity = (number, some suffix))
    (known : suffix.isKnown = true)
    (exact : FiniteDecimal) :
    (suffix.apply exact).toRat = exact.toRat * suffix.factor := by
  cases suffix with
  | thousands power =>
      have powers : (10 : ℚ) ^ (3 * power) = 1000 ^ power := by
        rw [zpow_mul]
        norm_num
      rw [Suffix.apply, FiniteDecimal.toRat_shift, powers, Suffix.factor]
  | binary letter power =>
      have positive := power_pos (power?_of_split parts) known
      obtain ⟨power, rfl⟩ := Int.eq_ofNat_of_zero_le positive.le
      rw [Suffix.apply, FiniteDecimal.toRat_scale, Suffix.factor, zpow_natCast]
      simp

/-- A suffixed number is computed without loss, unless it is too great. -/
theorem suffixedBytes_eq_ok_iff
    {quantity number : List Char}
    {suffix : Suffix}
    (parts : split quantity = (number, some suffix))
    (known : suffix.isKnown = true)
    {exact : FiniteDecimal}
    (nonneg : 0 ≤ exact.toRat * suffix.factor)
    (hasDigits : HasDigits precision (exact.toRat * suffix.factor))
    {bytes : Int} :
    suffixedBytes quantity exact suffix = .ok bytes ↔
      ¬10 ^ (greatestExponent + 1) ≤ exact.toRat * suffix.factor ∧
        bytes = ⌊exact.toRat * suffix.factor⌋ := by
  rw [← toRat_apply parts known] at nonneg hasDigits ⊢
  have kept := FiniteDecimal.toRat_roundTo hasDigits
  unfold suffixedBytes
  dsimp only
  rw [← kept] at nonneg ⊢
  generalize (suffix.apply exact).roundTo precision = rounded at nonneg ⊢
  have tooGreat_iff :
      rounded.coefficient ≠ 0 ∧ greatestExponent < rounded.leadingExponent ↔
        10 ^ (greatestExponent + 1) ≤ rounded.toRat := by
    rw [FiniteDecimal.toRat_of_nonneg nonneg]
    constructor
    · rintro ⟨nonzero, above⟩
      exact (rounded.lt_leadingExponent_iff nonzero _).mp above
    · intro reached
      have positive : 0 < rounded.magnitude :=
        (zpow_pos (by norm_num) (greatestExponent + 1)).trans_le reached
      have nonzero : rounded.coefficient ≠ 0 :=
        fun zero => positive.ne' (rounded.magnitude_eq_zero_iff.mpr zero)
      exact ⟨nonzero, (rounded.lt_leadingExponent_iff nonzero _).mpr reached⟩
  simp only [tooGreat_iff, FiniteDecimal.truncate_eq_floor nonneg]
  split
  · rename_i tooGreat
    simp [tooGreat]
  · rename_i fits
    simp [fits, eq_comm]

/-- A quantity denotes a value if it has a finite number, and no suffix or one in use. -/
theorem value?_eq_some_iff
    {quantity : List Char}
    {denoted : ℚ} :
    value? quantity = some denoted ↔
      ∃ number exact, Decimal.read? number = some (.finite exact) ∧
        (split quantity = (number, none) ∧ denoted = exact.toRat ∨
          ∃ suffix, split quantity = (number, some suffix) ∧ suffix.isKnown = true ∧
            denoted = exact.toRat * suffix.factor) := by
  constructor
  · intro value_eq
    unfold value? at value_eq
    generalize parts : split quantity = both at value_eq
    obtain ⟨number, suffix⟩ := both
    dsimp only at value_eq
    split at value_eq
    · rename_i exact read
      cases value_eq
      exact ⟨number, exact, read, .inl ⟨rfl, rfl⟩⟩
    · rename_i exact suffix read
      split at value_eq
      · rename_i known
        cases value_eq
        exact ⟨number, exact, read, .inr ⟨suffix, rfl, known, rfl⟩⟩
      · cases value_eq
    · cases value_eq
  · rintro ⟨number, exact, read, ⟨parts, rfl⟩ | ⟨suffix, parts, known, rfl⟩⟩
    · simp [value?, parts, read]
    · simp [value?, parts, read, known]

/-- The whole bytes of an exact quantity are its value rounded down, unless it is too great. -/
theorem bytes_eq_ok_iff
    {quantity : List Char}
    (isExact : IsExact quantity)
    {whole : Int} :
    bytes quantity = .ok whole ↔ ¬IsTooGreat quantity ∧ whole = ⌊value quantity⌋ := by
  obtain ⟨wellFormed, nonneg, hasDigits⟩ := isExact
  obtain ⟨denoted, value_eq⟩ := Option.isSome_iff_exists.mp wellFormed
  unfold IsTooGreat
  unfold value at nonneg hasDigits ⊢
  rw [value_eq, Option.getD_some] at nonneg hasDigits ⊢
  obtain ⟨number, exact, read, unsuffixed | suffixed⟩ := value?_eq_some_iff.mp value_eq
  · obtain ⟨parts, rfl⟩ := unsuffixed
    simp [bytes, parts, read, FiniteDecimal.truncate_eq_floor nonneg, eq_comm]
  · obtain ⟨suffix, parts, known, rfl⟩ := suffixed
    simpa [bytes, parts, read, known] using suffixedBytes_eq_ok_iff parts known nonneg hasDigits

/-- What a suffix multiplies by as it is written: a letter by a power of a thousand, and a capital
letter with an `i` by a power of 1024. -/
def writtenFactor? : List Char → Option ℚ
  | [] => some 1
  | [letter] => (power? letter).map fun power => 1000 ^ power
  | [letter, 'i'] =>
    if letter.isUpper then (power? letter).map fun power => 1024 ^ power else none
  | _ => none

section Written

open Decimal

variable {number suffix : List Char} {letter : Char} {power : Int}

/-- No suffix is mistaken for one at the end of a plainly written number. -/
theorem split_of_plain (plain : ∀ char ∈ number, IsPlain char) : split number = (number, none) := by
  unfold split
  cases ending : number.reverse with
  | nil => rfl
  | cons last earlier =>
      have present : last ∈ number := List.mem_reverse.mp (ending ▸ List.mem_cons_self)
      have each : plainChars.all (fun char => decide (char ≠ 'i' ∧ power? char = none)) = true := by
        decide
      obtain ⟨notI, noPower⟩ := of_decide_eq_true ((plain last present).of_all each)
      split
      · rename_i same
        exact (notI (List.cons.inj same).1).elim
      · rename_i same
        rw [← (List.cons.inj same).1, noPower]
      · rfl

theorem split_append_letter (stands : power? letter = some power) :
    split (number ++ [letter]) = (number, some (.thousands power)) := by
  have notI : letter ≠ 'i' := by
    rintro rfl
    cases stands
  unfold split
  rw [List.reverse_append, List.reverse_singleton, List.singleton_append]
  split
  · rename_i same
    exact (notI (List.cons.inj same).1).elim
  · rename_i same
    obtain ⟨rfl, rfl⟩ := List.cons.inj same
    rw [stands, List.reverse_reverse]
  · rename_i same
    cases same

theorem split_append_binary (stands : power? letter = some power) :
    split (number ++ [letter, 'i']) = (number, some (.binary letter power)) := by
  simp [split, stands]

/-- A quantity denotes the value of its number times the factor of its suffix as it is written. -/
theorem value?_append
    (plain : ∀ char ∈ number, IsPlain char)
    {exact : FiniteDecimal}
    (read : read? number = some (.finite exact))
    {factor : ℚ}
    (factor_eq : writtenFactor? suffix = some factor) :
    value? (number ++ suffix) = some (exact.toRat * factor) := by
  rw [value?_eq_some_iff]
  refine ⟨number, exact, read, ?_⟩
  unfold writtenFactor? at factor_eq
  split at factor_eq
  · cases factor_eq
    rw [List.append_nil, mul_one]
    exact .inl ⟨split_of_plain plain, rfl⟩
  · obtain ⟨power, stands, rfl⟩ := Option.map_eq_some_iff.mp factor_eq
    exact .inr ⟨_, split_append_letter stands, rfl, rfl⟩
  · split at factor_eq
    · rename_i isUpper
      obtain ⟨power, stands, rfl⟩ := Option.map_eq_some_iff.mp factor_eq
      exact .inr ⟨_, split_append_binary stands, isUpper, rfl⟩
    · cases factor_eq
  · cases factor_eq

/-- A plainly written quantity denotes what it says. -/
theorem value?_plainly
    {whole fraction : List Char}
    (digits : ∀ char ∈ whole ++ fraction, isAsciiDigit char = true)
    (nonempty : whole ++ fraction ≠ [])
    (short : (whole ++ fraction).length ≤ 10 ^ 18)
    {factor : ℚ}
    (factor_eq : writtenFactor? suffix = some factor) :
    value? (plainly whole fraction ++ suffix) =
      some (naturalOfDigits (whole ++ fraction) / 10 ^ fraction.length * factor) := by
  have plain (char : Char) (present : char ∈ plainly whole fraction) : IsPlain char :=
    isPlain_of_mem_plainly digits present
  rw [value?_append plain (read?_plainly digits nonempty short) factor_eq, toRat_written]

end Written

/-- One and a half kibibytes. -/
theorem value_kibibytes : value "1.5Ki".toList = 1536 := by
  have power : power? 'K' = some 1 := rfl
  have isUpper : 'K'.isUpper = true := rfl
  have factor_eq : writtenFactor? ['K', 'i'] = some 1024 := by
    norm_num [writtenFactor?, power, isUpper]
  have number_eq : naturalOfDigits (['1'] ++ ['5']) = 15 := rfl
  have value?_eq : value? (Decimal.plainly ['1'] ['5'] ++ ['K', 'i']) = _ :=
    value?_plainly (List.all_eq_true.mp (by decide)) (by decide) (by decide) factor_eq
  have denoted : value? "1.5Ki".toList = _ := value?_eq
  rw [value, denoted, number_eq]
  norm_num

/-- Five hundred thousandths of a byte. -/
theorem value_halfByte : value "500m".toList = 1 / 2 := by
  have power : power? 'm' = some (-1) := rfl
  have factor_eq : writtenFactor? ['m'] = some (1 / 1000) := by
    norm_num [writtenFactor?, power]
  have number_eq : naturalOfDigits (['5', '0', '0'] ++ []) = 500 := rfl
  have value?_eq : value? (Decimal.plainly ['5', '0', '0'] [] ++ ['m']) = _ :=
    value?_plainly (List.all_eq_true.mp (by decide)) (by decide) (by decide) factor_eq
  have denoted : value? "500m".toList = _ := value?_eq
  rw [value, denoted, number_eq]
  norm_num

theorem isExact_kibibytes : IsExact "1.5Ki".toList where
  wellFormed := by decide
  nonneg := by norm_num [value_kibibytes]
  hasDigits := ⟨1536, 0, by decide, by norm_num [value_kibibytes]⟩

theorem isExact_halfByte : IsExact "500m".toList where
  wellFormed := by decide
  nonneg := by norm_num [value_halfByte]
  hasDigits := ⟨5, -1, by decide, by norm_num [value_halfByte]⟩

theorem not_isTooGreat_kibibytes : ¬IsTooGreat "1.5Ki".toList := by
  have withinReach : 4 ≤ greatestExponent + 1 := by decide
  exact not_isTooGreat_of_lt withinReach (by norm_num [value_kibibytes])

theorem not_isTooGreat_halfByte : ¬IsTooGreat "500m".toList := by
  have withinReach : 0 ≤ greatestExponent + 1 := by decide
  exact not_isTooGreat_of_lt withinReach (by norm_num [value_halfByte])

end Quantity
end Headroom
