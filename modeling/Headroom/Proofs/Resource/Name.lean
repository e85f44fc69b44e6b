import Headroom.Resource.Name

/-!
# Names keep their suffix

Whatever node a probe resource is named after, its name ends in the whole suffix,
because a cut falls before the suffix and takes only separators away.  So two names
with different suffixes are different, even if their nodes have names that only
differ in the middle.
-/

namespace Headroom
namespace Name

/-- A suffix as it is meant to be: five letters and digits. -/
structure IsSuffix (suffix : List Char) : Prop where
  length_eq : suffix.length = 5
  mem_alphabet : ∀ char ∈ suffix, char ∈ suffixAlphabet

instance (suffix : List Char) : Decidable (IsSuffix suffix) :=
  decidable_of_iff (suffix.length = 5 ∧ suffix.all suffixAlphabet.contains = true) (by
    constructor
    · rintro ⟨length_eq, listed⟩
      exact ⟨length_eq, by simpa using listed⟩
    · rintro ⟨length_eq, listed⟩
      exact ⟨length_eq, by simpa using listed⟩)

theorem not_isSeparator_of_mem_alphabet :
    ∀ char ∈ suffixAlphabet, isSeparator char = false := by
  have noSeparator : suffixAlphabet.any isSeparator = false := by decide
  simpa using noSeparator

/-- Separators that are dropped at the start are not missing at the end. -/
theorem suffix_dropWhile_isSeparator
    {suffix chars : List Char}
    (ends : suffix <:+ chars)
    (plain : ∀ char ∈ suffix, isSeparator char = false) :
    suffix <:+ chars.dropWhile isSeparator := by
  induction chars with
  | nil => exact ends
  | cons char others inductionHypothesis =>
      rw [List.dropWhile_cons]
      split
      · rename_i separates
        rcases List.suffix_cons_iff.mp ends with equal | later
        · have char_plain := plain char (by simp [equal])
          rw [char_plain] at separates
          cases separates
        · exact inductionHypothesis later
      · exact ends

/-- Joining two parts keeps an end of the second part that has no separators. -/
theorem suffix_join
    {suffix tail : List Char}
    (head : List Char)
    (ends : suffix <:+ tail)
    (plain : ∀ char ∈ suffix, isSeparator char = false) :
    suffix <:+ join head tail := by
  unfold join
  split
  · exact List.suffix_append_of_suffix
      ((suffix_dropWhile_isSeparator ends plain).trans (List.suffix_cons _ _))
  · exact List.suffix_append_of_suffix ends

/-- The end of a name that is kept when the name is cut contains the suffix. -/
theorem suffix_keptTail
    {suffix chars : List Char}
    (proper : IsSuffix suffix)
    (ends : suffix <:+ chars) :
    suffix <:+ keptTail maximumLength chars := by
  obtain ⟨front, rfl⟩ := ends
  have kept : keptTail maximumLength (front ++ suffix) =
      (front ++ suffix).drop ((front ++ suffix).length - 32) := rfl
  rw [kept, List.drop_append_of_le_length]
  · exact List.suffix_append _ _
  · rw [List.length_append, proper.length_eq]
    omega

/-- The name of a probe resource ends in its suffix, however it is shortened. -/
theorem suffix_shorten_unshortened
    {suffix : List Char}
    (proper : IsSuffix suffix)
    (node : List Char) :
    suffix <:+ shorten maximumLength (unshortened node suffix) := by
  have ends : suffix <:+ unshortened node suffix := by
    unfold unshortened
    exact List.suffix_append_of_suffix (List.suffix_cons _ _)
  unfold shorten
  split
  · exact ends
  · exact suffix_join _ (suffix_keptTail proper ends)
      fun char present => not_isSeparator_of_mem_alphabet char (proper.mem_alphabet char present)

/-- Resources with the same name have the same suffix, whatever their nodes are. -/
theorem suffix_eq_of_probe_eq
    {node other : String}
    {first second : List Char}
    (firstProper : IsSuffix first)
    (secondProper : IsSuffix second)
    (same : probe node first = probe other second) :
    first = second := by
  have chars_eq := String.ofList_injective same
  have firstEnds := suffix_shorten_unshortened firstProper node.toList
  have secondEnds := suffix_shorten_unshortened secondProper other.toList
  rw [chars_eq] at firstEnds
  have lengths : first.length = second.length :=
    firstProper.length_eq.trans secondProper.length_eq.symm
  exact (List.suffix_of_suffix_length_le firstEnds secondEnds
    (Nat.le_of_eq lengths)).eq_of_length lengths

end Name
end Headroom
