import Headroom.Proofs.Resource.Name
import Mathlib.Algebra.Group.Nat.Defs

/-!
# Suffixes that are drawn

Names are told apart by their suffixes, so that it matters which suffixes are drawn.
If those from one draw up to another are proper and differ, the names that end in them
differ, whatever the nodes are.

The suffixes that are numbered in base thirty-six are proper, and they differ up to
the number of all suffixes.
-/

namespace Headroom
namespace Name

/-- The suffixes from one draw up to another are proper and differ. -/
structure DrawnApart
    (suffixes : Nat → List Char)
    (first last : Nat) : Prop where
  proper : ∀ draw, first ≤ draw → draw < last → IsSuffix (suffixes draw)
  different :
    ∀ draw other, first ≤ draw → draw < other → other < last → suffixes draw ≠ suffixes other

/-- Fewer draws are apart as well. -/
theorem DrawnApart.of_le
    {suffixes : Nat → List Char}
    {first later last : Nat}
    (apart : DrawnApart suffixes first last)
    (shorter : first ≤ later) :
    DrawnApart suffixes later last :=
  { proper := fun draw within => apart.proper draw (Nat.le_trans shorter within)
    different := fun draw other within =>
      apart.different draw other (Nat.le_trans shorter within) }

/-- Names that end in suffixes of different draws are different. -/
theorem DrawnApart.probe_ne
    {suffixes : Nat → List Char}
    {first last draw other : Nat}
    (apart : DrawnApart suffixes first last)
    (within : first ≤ draw)
    (later : draw < other)
    (bounded : other < last)
    (node otherNode : String) :
    probe node (suffixes draw) ≠ probe otherNode (suffixes other) := by
  intro same
  have drawProper := apart.proper draw within (Nat.lt_trans later bounded)
  have otherProper := apart.proper other (Nat.le_trans within (Nat.le_of_lt later)) bounded
  exact apart.different draw other within later bounded
    (suffix_eq_of_probe_eq drawProper otherProper same)

section Numbered

theorem length_suffixOfLength (length number : Nat) :
    (suffixOfLength length number).length = length := by
  induction length generalizing number with
  | zero => rfl
  | succ length inductionHypothesis =>
      rw [suffixOfLength, List.length_append, inductionHypothesis]
      rfl

theorem suffixChar_mem_alphabet (value : Nat) : suffixChar value ∈ suffixAlphabet := by
  have small : value % 36 < suffixAlphabet.length := Nat.mod_lt value (by decide)
  rw [suffixChar, List.getD_eq_getElem?_getD, List.getElem?_eq_getElem small, Option.getD_some]
  exact List.getElem_mem small

theorem mem_alphabet_of_mem_suffixOfLength
    {length number : Nat}
    {char : Char}
    (present : char ∈ suffixOfLength length number) :
    char ∈ suffixAlphabet := by
  induction length generalizing number with
  | zero => cases present
  | succ length inductionHypothesis =>
      rw [suffixOfLength, List.mem_append, List.mem_singleton] at present
      rcases present with earlier | rfl
      · exact inductionHypothesis earlier
      · exact suffixChar_mem_alphabet number

/-- Every suffix that is numbered is proper. -/
theorem isSuffix_suffix (drawn : Nat) : IsSuffix (suffix drawn) :=
  { length_eq := length_suffixOfLength 5 drawn
    mem_alphabet := fun _ present => mem_alphabet_of_mem_suffixOfLength present }

/-- Different digits have different characters. -/
theorem mod_eq_of_suffixChar_eq
    {value other : Nat}
    (same : suffixChar value = suffixChar other) :
    value % 36 = other % 36 := by
  have digits :
      ∀ first second : Fin 36,
        suffixAlphabet.getD first 'a' = suffixAlphabet.getD second 'a' → first = second := by
    decide +kernel
  have equal := digits ⟨value % 36, Nat.mod_lt value (by decide)⟩
    ⟨other % 36, Nat.mod_lt other (by decide)⟩ same
  exact congrArg Fin.val equal

/-- Numbers are told apart by as many characters as they have digits. -/
theorem eq_of_suffixOfLength_eq
    {length number other : Nat}
    (small : number < 36 ^ length)
    (otherSmall : other < 36 ^ length)
    (same : suffixOfLength length number = suffixOfLength length other) :
    number = other := by
  induction length generalizing number other with
  | zero => omega
  | succ length inductionHypothesis =>
      rw [suffixOfLength, suffixOfLength] at same
      obtain ⟨front_eq, last_eq⟩ := List.append_inj' same rfl
      rw [Nat.pow_succ] at small otherSmall
      have quotient_eq : number / 36 = other / 36 :=
        inductionHypothesis (Nat.div_lt_of_lt_mul (by omega)) (Nat.div_lt_of_lt_mul (by omega))
          front_eq
      have digit_eq := mod_eq_of_suffixChar_eq (List.singleton_inj.mp last_eq)
      omega

/-- Numbered suffixes differ as long as there are new ones. -/
theorem drawnApart_suffix
    {first last : Nat}
    (available : last ≤ 36 ^ 5) :
    DrawnApart suffix first last :=
  { proper := fun draw _ _ => isSuffix_suffix draw
    different := by
      intro draw other _ later bounded same
      have equal := eq_of_suffixOfLength_eq (by omega) (by omega) same
      omega }

end Numbered
end Name
end Headroom
