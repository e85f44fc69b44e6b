import Headroom.Decimal.Reader
import Headroom.Proofs.Decimal.Value
import Headroom.Proofs.Text.Digit
import Mathlib.Data.List.TakeWhile

/-!
# Reading plainly written numbers

A number is plainly written with ASCII digits, and with a point and more digits if it has a
fraction.  It is read as it stands: the number that all of the digits spell, divided by a power
of ten with as many zeros as there are digits behind the point.
-/

namespace Headroom
namespace Decimal

/-- The digits of a number and of its fraction, with a point between them if there is one. -/
def plainly (whole fraction : List Char) : List Char :=
  whole ++ if fraction = [] then [] else '.' :: fraction

/-- The characters with which numbers are plainly written. -/
def IsPlain (char : Char) : Prop :=
  isAsciiDigit char = true ∨ char = '.'

/-- All of these characters. -/
def plainChars : List Char :=
  ['0', '1', '2', '3', '4', '5', '6', '7', '8', '9', '.']

/-- A character that is neither dropped nor replaced nor taken for a sign, and with which none of the
words for infinity and for no number begins. -/
structure StandsForItself (char : Char) : Prop where
  notBlank : isBlank char = false
  notUnderscore : char ≠ '_'
  plainDigit_eq : plainDigit char = char
  notMinus : char ≠ '-'
  notPlus : char ≠ '+'
  noWord : char.toLower ∉ ['i', 'n', 's']

section Characters

variable {char : Char}

/-- What is true of each of the characters is true of one. -/
theorem IsPlain.of_all
    (plain : IsPlain char)
    {property : Char → Bool}
    (all : plainChars.all property = true) :
    property char = true := by
  refine List.all_eq_true.mp all char ?_
  rcases plain with digit | rfl
  · exact List.mem_append_left ['.'] (mem_of_isAsciiDigit digit)
  · decide

/-- Such a character stands for itself. -/
theorem IsPlain.standsForItself (plain : IsPlain char) : StandsForItself char := by
  have each : plainChars.all (fun char =>
      decide (isBlank char = false ∧ char ≠ '_' ∧ plainDigit char = char ∧ char ≠ '-' ∧
        char ≠ '+' ∧ char.toLower ∉ ['i', 'n', 's'])) = true := by
    decide
  obtain ⟨notBlank, notUnderscore, plainDigit_eq, notMinus, notPlus, noWord⟩ :=
    of_decide_eq_true (plain.of_all each)
  exact { notBlank, notUnderscore, plainDigit_eq, notMinus, notPlus, noWord }

theorem isPlain_of_mem_plainly
    {whole fraction : List Char}
    (digits : ∀ char ∈ whole ++ fraction, isAsciiDigit char = true)
    (present : char ∈ plainly whole fraction) :
    IsPlain char := by
  unfold plainly at present
  rcases List.mem_append.mp present with inWhole | behind
  · exact .inl (digits char (List.mem_append_left _ inWhole))
  · split at behind
    · cases behind
    · rcases List.mem_cons.mp behind with point | inFraction
      · exact .inr point
      · exact .inl (digits char (List.mem_append_right _ inFraction))

end Characters

theorem trim_eq_self
    {test : Char → Bool}
    {text : List Char}
    (without : ∀ char ∈ text, test char = false) :
    trim test text = text := by
  have kept {text : List Char} (without : ∀ char ∈ text, test char = false) :
      text.dropWhile test = text := by
    cases text with
    | nil => rfl
    | cons char rest => exact List.dropWhile_cons_of_neg (by simp [without char])
  rw [trim, kept without, kept, List.reverse_reverse]
  intro char present
  exact without char (List.mem_reverse.mp present)

section Texts

variable {text : List Char} (plain : ∀ char ∈ text, IsPlain char)

include plain

theorem essentials_eq_self : essentials text = text := by
  have trimmed : trim isBlank text = text :=
    trim_eq_self fun char present => (plain char present).standsForItself.notBlank
  have unfiltered : text.filter (· ≠ '_') = text :=
    List.filter_eq_self.mpr fun char present => by
      simp [(plain char present).standsForItself.notUnderscore]
  have unmapped : text.map plainDigit = text.map id :=
    List.map_congr_left fun char present => (plain char present).standsForItself.plainDigit_eq
  rw [essentials, trimmed, unfiltered, unmapped, List.map_id]

theorem splitSign_eq_unsigned : Numeral.splitSign text = (false, text) := by
  unfold Numeral.splitSign
  split
  · exact absurd rfl (plain '-' (by simp)).standsForItself.notMinus
  · exact absurd rfl (plain '+' (by simp)).standsForItself.notPlus
  · rfl

/-- A text of such characters is read as a number, and not as a word. -/
theorem read?_eq_finite (nonempty : text ≠ []) :
    read? text = ((finite? false text).filter inRange).map .finite := by
  cases text with
  | nil => exact (nonempty rfl).elim
  | cons char rest =>
      have noWord := (plain char List.mem_cons_self).standsForItself.noWord
      simp only [List.mem_cons, List.not_mem_nil, or_false, not_or] at noWord
      obtain ⟨notI, notN, notS⟩ := noWord
      have inf : "inf".toList = ['i', 'n', 'f'] := rfl
      have infinity : "infinity".toList = 'i' :: "nfinity".toList := rfl
      have nan : "nan".toList = ['n', 'a', 'n'] := rfl
      have snan : "snan".toList = ['s', 'n', 'a', 'n'] := rfl
      unfold read?
      rw [essentials_eq_self plain, splitSign_eq_unsigned plain]
      simp [inf, infinity, nan, snan, notI, Ne.symm notN, Ne.symm notS, List.isPrefixOf]

end Texts

section Numbers

variable {whole fraction : List Char}

/-- The number that is written. -/
def written (whole fraction : List Char) : FiniteDecimal :=
  { negative := false
    coefficient := naturalOfDigits (whole ++ fraction)
    exponent := -(fraction.length : Int) }

theorem toRat_written (whole fraction : List Char) :
    (written whole fraction).toRat = naturalOfDigits (whole ++ fraction) / 10 ^ fraction.length := by
  simp [FiniteDecimal.toRat, FiniteDecimal.magnitude, written, div_eq_mul_inv]

variable (digits : ∀ char ∈ whole ++ fraction, isAsciiDigit char = true)

include digits

theorem finite?_plainly (nonempty : whole ++ fraction ≠ []) :
    finite? false (plainly whole fraction) = some (written whole fraction) := by
  have digitsWhole : ∀ char ∈ whole, isAsciiDigit char = true :=
    fun char present => digits char (List.mem_append_left _ present)
  have digitsFraction : ∀ char ∈ fraction, isAsciiDigit char = true :=
    fun char present => digits char (List.mem_append_right _ present)
  have taken {text : List Char} (digits : ∀ char ∈ text, isAsciiDigit char = true) :
      text.takeWhile isAsciiDigit = text ∧ text.dropWhile isAsciiDigit = [] :=
    ⟨List.takeWhile_eq_self_iff.mpr digits, List.dropWhile_eq_nil_iff.mpr digits⟩
  have point : isAsciiDigit '.' = false := by decide
  have exponent : exponent? [] = some 0 := rfl
  by_cases without : fraction = []
  · subst without
    have nonempty : whole ≠ [] := by simpa using nonempty
    simp [finite?, plainly, written, taken digitsWhole, exponent, nonempty]
  · simp [finite?, plainly, written, without, List.takeWhile_append_of_pos digitsWhole,
      List.dropWhile_append_of_pos digitsWhole, point, taken digitsFraction, exponent]

/-- A number is within the range of exponents unless it has a great many digits. -/
theorem inRange_written
    (nonempty : whole ++ fraction ≠ [])
    (short : (whole ++ fraction).length ≤ 10 ^ 18) :
    inRange (written whole fraction) = true := by
  have few : digitCount (naturalOfDigits (whole ++ fraction)) ≤ (whole ++ fraction).length :=
    (digitCount_le_iff (List.length_pos_of_ne_nil nonempty)).mpr (naturalOfDigits_lt digits)
  rw [List.length_append] at few short
  rw [inRange, Bool.and_eq_true]
  constructor <;> apply decide_eq_true
  · simp only [written, leastExponent]
    omega
  · split <;> simp only [written, FiniteDecimal.leadingExponent, greatestExponent] <;> omega

/-- A plainly written number is read as it stands. -/
theorem read?_plainly
    (nonempty : whole ++ fraction ≠ [])
    (short : (whole ++ fraction).length ≤ 10 ^ 18) :
    read? (plainly whole fraction) = some (.finite (written whole fraction)) := by
  have plain (char : Char) (present : char ∈ plainly whole fraction) : IsPlain char :=
    isPlain_of_mem_plainly digits present
  have written_ne_nil : plainly whole fraction ≠ [] := by
    unfold plainly
    split
    · rename_i without
      simpa [without] using nonempty
    · simp
  rw [read?_eq_finite plain written_ne_nil, finite?_plainly digits nonempty]
  simp [Option.filter, inRange_written digits nonempty short]

end Numbers

end Decimal
end Headroom
