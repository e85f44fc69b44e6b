import Headroom.Text.Blank
import Headroom.Text.Digit
import Mathlib.Data.List.Induction
import Mathlib.Tactic.IntervalCases

/-!
# Digits and the numbers that they spell

The ASCII digits are ten consecutive characters, none of which is a blank.  What they spell has no
more digits than were written, and the digits of a number spell that number.
-/

namespace Headroom

section Characters

variable {char : Char}

theorem isAsciiDigit_iff_toNat :
    isAsciiDigit char = true ↔ '0'.toNat ≤ char.toNat ∧ char.toNat ≤ '9'.toNat := by
  have order : '0' ≤ char ∧ char ≤ '9' ↔ '0'.toNat ≤ char.toNat ∧ char.toNat ≤ '9'.toNat :=
    and_congr UInt32.le_iff_toNat_le UInt32.le_iff_toNat_le
  rw [isAsciiDigit, asciiDigit?, ← order]
  split <;> simp_all

theorem isBlank_of_isAsciiDigit (digit : isAsciiDigit char = true) : isBlank char = false := by
  obtain ⟨low, high⟩ := isAsciiDigit_iff_toNat.mp digit
  have zero : '0'.toNat = 0x30 := rfl
  have nine : '9'.toNat = 0x39 := rfl
  refine Bool.eq_false_iff.mpr fun blank => ?_
  simp only [isBlank, Bool.or_eq_true, Bool.and_eq_true, decide_eq_true_eq, beq_iff_eq] at blank
  omega

/-- There are ten ASCII digits. -/
theorem mem_of_isAsciiDigit (digit : isAsciiDigit char = true) :
    char ∈ ['0', '1', '2', '3', '4', '5', '6', '7', '8', '9'] := by
  obtain ⟨low, high⟩ : 48 ≤ char.toNat ∧ char.toNat ≤ 57 := isAsciiDigit_iff_toNat.mp digit
  rw [← Char.ofNat_toNat char]
  generalize char.toNat = code at low high
  interval_cases code <;> decide

end Characters

section Numbers

/-- The digits of a number spell it. -/
theorem naturalOfDigits_toDigits (number : Nat) :
    naturalOfDigits (Nat.toDigits 10 number) = number := by
  have read := @Nat.ofDigitChars_toDigits 10 number (by decide) (by decide)
  rw [Nat.ofDigitChars_eq_foldl] at read
  simpa [naturalOfDigits, Nat.mul_comm] using read

/-- Digits spell a number with no more digits. -/
theorem naturalOfDigits_lt
    {digits : List Char}
    (all : ∀ char ∈ digits, isAsciiDigit char = true) :
    naturalOfDigits digits < 10 ^ digits.length := by
  induction digits using List.reverseRecOn with
  | nil => decide
  | append_singleton earlier digit inductionHypothesis =>
      have bound := inductionHypothesis fun char present => all char (List.mem_append_left _ present)
      obtain ⟨-, high⟩ := isAsciiDigit_iff_toNat.mp (all digit (by simp))
      have nine : '9'.toNat = 0x39 := rfl
      rw [naturalOfDigits_append_singleton, List.length_append, List.length_singleton, Nat.pow_succ]
      omega

end Numbers

end Headroom
