import Headroom.Proofs.Resource.Name
import Mathlib.Data.List.Chain
import Mathlib.Data.List.DropRight

/-!
# Shortened names stay valid

A name is valid if it consists of labels with dots between them.  Whether it is can be
told from its two ends and from any two characters that stand next to each other, and so
parts of a valid name are valid as soon as their ends are.

A name that is shortened consists of a start and an end of the whole name.  Where the cut
leaves separators they are taken away, so that both parts are valid, and then they may be
put together with a dash or without one.
-/

namespace Headroom
namespace Name

/-- A non-empty word of letters, digits and dashes that does not begin or end in a dash. -/
structure IsLabel (label : List Char) : Prop where
  allowed : ∀ char ∈ label, char ∈ suffixAlphabet ∨ char = '-'
  first : ∃ char ∈ label.head?, char ∈ suffixAlphabet
  last : ∃ char ∈ label.getLast?, char ∈ suffixAlphabet

instance (label : List Char) : Decidable (IsLabel label) :=
  decidable_of_iff
    (label.all (fun char => char ∈ suffixAlphabet ∨ char = '-') = true ∧
      label.head?.any (· ∈ suffixAlphabet) = true ∧
        label.getLast?.any (· ∈ suffixAlphabet) = true)
    ⟨fun ⟨allowed, first, last⟩ =>
        { allowed := by simpa using allowed
          first := by simpa [Option.any_eq_true] using first
          last := by simpa [Option.any_eq_true] using last },
      fun ⟨allowed, first, last⟩ =>
        ⟨by simpa using allowed, by simpa [Option.any_eq_true] using first,
          by simpa [Option.any_eq_true] using last⟩⟩

/-- A name that consists of labels with dots between them. -/
def IsSubdomain (name : List Char) : Prop :=
  ∀ label ∈ name.splitOn '.', IsLabel label

instance (name : List Char) : Decidable (IsSubdomain name) :=
  inferInstanceAs (Decidable (∀ label ∈ name.splitOn '.', IsLabel label))

/-- Of two characters next to each other, none is a dot unless the other is a letter or a digit. -/
def DotsApart (left right : Char) : Prop :=
  (left = '.' → right ∈ suffixAlphabet) ∧ (right = '.' → left ∈ suffixAlphabet)

/-- A name of allowed characters that begins and ends in letters or digits and has its dots
between such. -/
structure IsSeamless (name : List Char) : Prop where
  allowed : ∀ char ∈ name, char ∈ suffixAlphabet ∨ isSeparator char = true
  first : ∃ char ∈ name.head?, char ∈ suffixAlphabet
  last : ∃ char ∈ name.getLast?, char ∈ suffixAlphabet
  apart : name.IsChain DotsApart

theorem isSeparator_iff (char : Char) : isSeparator char = true ↔ char = '-' ∨ char = '.' := by
  simp [isSeparator]

theorem dot_not_mem_alphabet : '.' ∉ suffixAlphabet := by decide

section Parts

variable {name front back : List Char}

theorem IsSeamless.ne_nil (seamless : IsSeamless name) : name ≠ [] := by
  rintro rfl
  obtain ⟨char, present, -⟩ := seamless.first
  cases present

/-- The start of a seamless name is seamless if it ends well. -/
theorem IsSeamless.of_prefix
    (seamless : IsSeamless name)
    (starts : front <+: name)
    (last : ∃ char ∈ front.getLast?, char ∈ suffixAlphabet) :
    IsSeamless front where
  allowed := fun char present => seamless.allowed char (starts.subset present)
  first := by
    obtain ⟨ending, present, -⟩ := last
    obtain ⟨rest, rfl⟩ := starts
    have nonempty : front ≠ [] := by
      rintro rfl
      cases present
    obtain ⟨char, first, plain⟩ := seamless.first
    rw [List.head?_append_of_ne_nil _ nonempty] at first
    exact ⟨char, first, plain⟩
  last := last
  apart := seamless.apart.prefix starts

/-- The end of a seamless name is seamless if it begins well. -/
theorem IsSeamless.of_suffix
    (seamless : IsSeamless name)
    (ends : back <:+ name)
    (first : ∃ char ∈ back.head?, char ∈ suffixAlphabet) :
    IsSeamless back where
  allowed := fun char present => seamless.allowed char (ends.subset present)
  first := first
  last := by
    obtain ⟨beginning, present, -⟩ := first
    obtain ⟨rest, rfl⟩ := ends
    have nonempty : back ≠ [] := by
      rintro rfl
      cases present
    obtain ⟨char, last, plain⟩ := seamless.last
    rw [List.getLast?_append_of_ne_nil _ nonempty] at last
    exact ⟨char, last, plain⟩
  apart := seamless.apart.suffix ends

/-- Two seamless names may be put together at any seam that letters and digits tolerate. -/
theorem IsSeamless.append
    {seam : List Char}
    (head : IsSeamless front)
    (tail : IsSeamless back)
    (separators : ∀ char ∈ seam, isSeparator char = true)
    (tolerated : ∀ left ∈ suffixAlphabet, ∀ right ∈ suffixAlphabet,
      (left :: seam ++ [right]).IsChain DotsApart) :
    IsSeamless (front ++ seam ++ back) := by
  obtain ⟨left, leftLast, leftPlain⟩ := head.last
  obtain ⟨right, rightFirst, rightPlain⟩ := tail.first
  obtain ⟨start, rfl⟩ := List.getLast?_eq_some_iff.mp leftLast
  obtain ⟨rest, rfl⟩ := List.head?_eq_some_iff.mp rightFirst
  constructor
  case allowed =>
    intro char present
    rw [List.mem_append, List.mem_append] at present
    rcases present with (before | between) | after
    · exact head.allowed char before
    · exact .inr (separators char between)
    · exact tail.allowed char after
  case first =>
    obtain ⟨char, first, plain⟩ := head.first
    refine ⟨char, ?_, plain⟩
    rwa [List.append_assoc, List.head?_append_of_ne_nil _ head.ne_nil]
  case last =>
    obtain ⟨char, last, plain⟩ := tail.last
    refine ⟨char, ?_, plain⟩
    rwa [List.getLast?_append_of_ne_nil _ tail.ne_nil]
  case apart =>
    have chain := tolerated left leftPlain right rightPlain
    have whole : start ++ [left] ++ seam ++ right :: rest =
        start ++ left :: (seam ++ right :: rest) := by
      simp
    rw [whole, List.isChain_split]
    refine ⟨head.apart, ?_⟩
    rw [← List.cons_append, List.isChain_split]
    exact ⟨chain, tail.apart⟩

/-- A letter or a digit is no dot. -/
theorem ne_dot_of_mem_alphabet
    {char : Char}
    (plain : char ∈ suffixAlphabet) :
    char ≠ '.' := by
  rintro rfl
  exact dot_not_mem_alphabet plain

/-- Two seamless names may be put together with a dash. -/
theorem IsSeamless.append_dash
    (head : IsSeamless front)
    (tail : IsSeamless back) :
    IsSeamless (front ++ '-' :: back) := by
  have joined : IsSeamless (front ++ ['-'] ++ back) := by
    refine head.append tail (by simp [isSeparator]) ?_
    intro left leftPlain right rightPlain
    simp [DotsApart, ne_dot_of_mem_alphabet leftPlain, ne_dot_of_mem_alphabet rightPlain]
  simpa using joined

/-- Names of one label are those without a dot. -/
theorem isSeamless_iff_of_not_mem
    {label : List Char}
    (undotted : '.' ∉ label) :
    IsSeamless label ↔ IsLabel label := by
  have allowed_iff (char : Char) (present : char ∈ label) :
      (char ∈ suffixAlphabet ∨ isSeparator char = true) ↔
        (char ∈ suffixAlphabet ∨ char = '-') := by
    have other : char ≠ '.' := by
      rintro rfl
      exact undotted present
    simp [isSeparator_iff, other]
  have apart : label.IsChain DotsApart := by
    refine List.Pairwise.isChain (List.pairwise_of_forall_mem_list ?_)
    intro left leftPresent right rightPresent
    refine ⟨?_, ?_⟩
    · rintro rfl
      exact (undotted leftPresent).elim
    · rintro rfl
      exact (undotted rightPresent).elim
  constructor
  · intro seamless
    exact
      { allowed := fun char present =>
          (allowed_iff char present).mp (seamless.allowed char present)
        first := seamless.first
        last := seamless.last }
  · intro proper
    exact
      { allowed := fun char present =>
          (allowed_iff char present).mpr (proper.allowed char present)
        first := proper.first
        last := proper.last
        apart }

/-- A dot divides a seamless name into two. -/
theorem isSeamless_append_dot :
    IsSeamless (front ++ '.' :: back) ↔ IsSeamless front ∧ IsSeamless back := by
  constructor
  · intro seamless
    obtain ⟨before, after, meets⟩ := List.isChain_append.mp seamless.apart
    constructor
    · refine seamless.of_prefix (List.prefix_append _ _) ?_
      cases last : front.getLast? with
      | none =>
          obtain rfl := List.getLast?_eq_none_iff.mp last
          obtain ⟨char, first, plain⟩ := seamless.first
          cases first
          exact (dot_not_mem_alphabet plain).elim
      | some char => exact ⟨char, rfl, (meets char last '.' rfl).2 rfl⟩
    · refine seamless.of_suffix ⟨front ++ ['.'], by simp⟩ ?_
      cases first : back.head? with
      | none =>
          obtain rfl := List.head?_eq_none_iff.mp first
          obtain ⟨char, last, plain⟩ := seamless.last
          rw [List.getLast?_append_of_ne_nil _ (List.cons_ne_nil _ _)] at last
          cases last
          exact (dot_not_mem_alphabet plain).elim
      | some char =>
          exact ⟨char, rfl, (after.rel_head? first).1 rfl⟩
  · rintro ⟨head, tail⟩
    have joined : IsSeamless (front ++ ['.'] ++ back) := by
      refine head.append tail (by simp [isSeparator]) ?_
      intro left leftPlain right rightPlain
      simp [DotsApart, leftPlain, rightPlain, ne_dot_of_mem_alphabet]
    simpa using joined

end Parts

/-- Whether a name is valid can be told from its ends and from neighbouring characters. -/
theorem isSubdomain_iff_isSeamless (name : List Char) :
    IsSubdomain name ↔ IsSeamless name := by
  unfold IsSubdomain
  by_cases dotted : '.' ∈ name
  · obtain ⟨label, rest, divided, undotted⟩ := List.eq_append_cons_of_mem dotted
    have shorter : rest.length < name.length := by
      rw [divided, List.length_append, List.length_cons]
      omega
    have inductionHypothesis := isSubdomain_iff_isSeamless rest
    unfold IsSubdomain at inductionHypothesis
    rw [divided, List.splitOn_append_cons_self_of_not_mem undotted, List.forall_mem_cons,
      inductionHypothesis, isSeamless_append_dot, isSeamless_iff_of_not_mem undotted]
  · rw [List.splitOn_eq_singleton dotted, List.forall_mem_singleton,
      isSeamless_iff_of_not_mem dotted]
termination_by name.length

section Joining

variable {name head tail : List Char}

/-- A character of a seamless name that does not separate is a letter or a digit. -/
theorem IsSeamless.mem_alphabet
    (seamless : IsSeamless name)
    {char : Char}
    (present : char ∈ name)
    (plain : isSeparator char = false) :
    char ∈ suffixAlphabet := by
  rcases seamless.allowed char present with letter | separates
  · exact letter
  · rw [plain] at separates
    cases separates

/-- The start of a seamless name without the separators at its end is seamless. -/
theorem IsSeamless.rdropWhile
    (seamless : IsSeamless name)
    (starts : head <+: name)
    (nonempty : head ≠ []) :
    IsSeamless (head.rdropWhile isSeparator) := by
  have trimmed := (List.rdropWhile_prefix isSeparator (l := head)).trans starts
  -- The first character of the name is no separator, so that something is left.
  obtain ⟨char, first, plain⟩ := seamless.first
  obtain ⟨rest, rfl⟩ := starts
  rw [List.head?_append_of_ne_nil _ nonempty] at first
  have left : head.rdropWhile isSeparator ≠ [] := by
    intro emptied
    have separates := List.rdropWhile_eq_nil_iff.mp emptied char (List.mem_of_mem_head? first)
    rw [not_isSeparator_of_mem_alphabet char plain] at separates
    cases separates
  refine seamless.of_prefix trimmed ⟨_, List.getLast?_eq_some_getLast left, ?_⟩
  refine seamless.mem_alphabet (trimmed.subset (List.getLast_mem left)) ?_
  exact Bool.not_eq_true _ ▸ List.rdropWhile_last_not isSeparator head left

/-- The end of a seamless name without the separators at its start is seamless. -/
theorem IsSeamless.dropWhile
    (seamless : IsSeamless name)
    (ends : tail <:+ name)
    (nonempty : tail ≠ []) :
    IsSeamless (tail.dropWhile isSeparator) := by
  have trimmed_suffix := (List.dropWhile_suffix isSeparator (l := tail)).trans ends
  obtain ⟨char, last, plain⟩ := seamless.last
  obtain ⟨rest, rfl⟩ := ends
  rw [List.getLast?_append_of_ne_nil _ nonempty] at last
  have left : tail.dropWhile isSeparator ≠ [] := by
    intro emptied
    have separates := List.dropWhile_eq_nil_iff.mp emptied char (List.mem_of_getLast? last)
    rw [not_isSeparator_of_mem_alphabet char plain] at separates
    cases separates
  refine seamless.of_suffix trimmed_suffix ⟨_, List.head?_eq_some_head left, ?_⟩
  refine seamless.mem_alphabet (trimmed_suffix.subset (List.head_mem left)) ?_
  exact Bool.not_eq_true _ ▸ List.head_dropWhile_not isSeparator left

/-- A start and an end of a seamless name are joined to a seamless name. -/
theorem IsSeamless.join
    (seamless : IsSeamless name)
    (starts : head <+: name)
    (ends : tail <:+ name)
    (headNonempty : head ≠ [])
    (tailNonempty : tail ≠ []) :
    IsSeamless (join head tail) := by
  unfold Name.join
  split
  · exact (seamless.rdropWhile starts headNonempty).append_dash
      (seamless.dropWhile ends tailNonempty)
  · rename_i unseparated
    simp only [Bool.or_eq_true, not_or, Bool.not_eq_true] at unseparated
    have headSeamless : IsSeamless head := by
      refine seamless.of_prefix starts ⟨_, List.getLast?_eq_some_getLast headNonempty, ?_⟩
      refine seamless.mem_alphabet (starts.subset (List.getLast_mem headNonempty)) ?_
      simpa [List.getLast?_eq_some_getLast headNonempty] using unseparated.1
    have tailSeamless : IsSeamless tail := by
      refine seamless.of_suffix ends ⟨_, List.head?_eq_some_head tailNonempty, ?_⟩
      refine seamless.mem_alphabet (ends.subset (List.head_mem tailNonempty)) ?_
      simpa [List.head?_eq_some_head tailNonempty] using unseparated.2
    have joined : IsSeamless (head ++ [] ++ tail) := by
      refine headSeamless.append tailSeamless (by simp) ?_
      intro left leftPlain right rightPlain
      simp [DotsApart, leftPlain, rightPlain]
    simpa using joined

/-- Joining two parts makes nothing longer, because a dash stands for a separator at least. -/
theorem length_join_le (head tail : List Char) :
    (join head tail).length ≤ head.length + tail.length := by
  unfold Name.join
  split
  · rename_i separated
    have head_le : (head.rdropWhile isSeparator).length ≤ head.length :=
      (List.rdropWhile_prefix isSeparator _).length_le
    have tail_le : (tail.dropWhile isSeparator).length ≤ tail.length :=
      (List.dropWhile_suffix isSeparator).length_le
    have fewer :
        (head.rdropWhile isSeparator).length < head.length ∨
          (tail.dropWhile isSeparator).length < tail.length := by
      rw [Bool.or_eq_true, Option.any_eq_true, Option.any_eq_true] at separated
      rcases separated with ⟨char, last, separates⟩ | ⟨char, first, separates⟩
      · obtain ⟨start, rfl⟩ := List.getLast?_eq_some_iff.mp last
        have start_le : (start.rdropWhile isSeparator).length ≤ start.length :=
          (List.rdropWhile_prefix isSeparator _).length_le
        rw [List.rdropWhile_concat_pos _ _ _ separates, List.length_append]
        exact .inl (Nat.lt_succ_of_le start_le)
      · obtain ⟨rest, rfl⟩ := List.head?_eq_some_iff.mp first
        have rest_le : (rest.dropWhile isSeparator).length ≤ rest.length :=
          (List.dropWhile_suffix isSeparator).length_le
        rw [List.dropWhile_cons_of_pos separates, List.length_cons]
        exact .inr (Nat.lt_succ_of_le rest_le)
    have trimmed : (head.reverse.dropWhile isSeparator).reverse = head.rdropWhile isSeparator := rfl
    rw [trimmed, List.length_append, List.length_cons]
    omega
  · rw [List.length_append]

end Joining

section Shortening

variable {limit : Int} {name : List Char}

theorem keptHead_starts (limit : Int) (name : List Char) : keptHead limit name <+: name := by
  unfold keptHead takeFirst
  split <;> exact List.take_prefix _ _

theorem keptTail_ends (limit : Int) (name : List Char) : keptTail limit name <:+ name := by
  unfold keptTail takeLast
  split <;> exact List.drop_suffix _ _

/-- Of a name that is too long one half of the limit is kept at the start. -/
theorem length_keptHead
    (enough : 2 ≤ limit)
    (long : limit < name.length) :
    ((keptHead limit name).length : Int) = limit / 2 := by
  unfold keptHead takeFirst
  rw [if_pos (by omega), List.length_take]
  omega

/-- Of a name that is too long the other half of the limit is kept at the end. -/
theorem length_keptTail
    (enough : 2 ≤ limit)
    (long : limit < name.length) :
    ((keptTail limit name).length : Int) = limit - limit / 2 := by
  unfold keptTail takeLast
  rw [if_pos (by omega), List.length_drop]
  omega

/-- A shortened name is as short as it should be. -/
theorem length_shorten_le
    (enough : 2 ≤ limit)
    (name : List Char) :
    ((shorten limit name).length : Int) ≤ limit := by
  unfold shorten
  split
  · assumption
  · rename_i unfit
    have long := Int.not_le.mp unfit
    have joined := length_join_le (keptHead limit name) (keptTail limit name)
    have head := length_keptHead enough long
    have tail := length_keptTail enough long
    omega

/-- A valid name is still valid when it is shortened. -/
theorem IsSubdomain.shorten
    (valid : IsSubdomain name)
    (enough : 2 ≤ limit) :
    IsSubdomain (shorten limit name) := by
  unfold Name.shorten
  split
  · exact valid
  · rename_i unfit
    have long := Int.not_le.mp unfit
    rw [isSubdomain_iff_isSeamless] at valid ⊢
    refine valid.join (keptHead_starts _ _) (keptTail_ends _ _) ?_ ?_
    · have head := length_keptHead enough long
      refine List.ne_nil_of_length_pos ?_
      omega
    · have tail := length_keptTail enough long
      refine List.ne_nil_of_length_pos ?_
      omega

/-- Shortening to two characters or more leaves something of the start. -/
theorem shorten?_eq_some
    (enough : 2 ≤ limit)
    (name : List Char) :
    shorten? limit name = some (shorten limit name) := by
  unfold shorten?
  rw [if_neg]
  rintro ⟨long, emptied⟩
  have head := length_keptHead enough long
  rw [emptied, List.length_nil] at head
  omega

end Shortening

/-- A word of letters and digits is a valid name. -/
theorem isSeamless_of_forall_mem_alphabet
    {word : List Char}
    (nonempty : word ≠ [])
    (plain : ∀ char ∈ word, char ∈ suffixAlphabet) :
    IsSeamless word := by
  have undotted : '.' ∉ word := fun present => dot_not_mem_alphabet (plain _ present)
  rw [isSeamless_iff_of_not_mem undotted]
  exact
    { allowed := fun char present => .inl (plain char present)
      first := ⟨_, List.head?_eq_some_head nonempty, plain _ (List.head_mem nonempty)⟩
      last := ⟨_, List.getLast?_eq_some_getLast nonempty, plain _ (List.getLast_mem nonempty)⟩ }

theorem isSeamless_stem : IsSeamless stem := by
  rw [isSeamless_iff_of_not_mem (by decide)]
  decide

/-- A resource that probes a node with a valid name has a valid name before it is shortened. -/
theorem isSubdomain_unshortened
    {node suffix : List Char}
    (valid : IsSubdomain node)
    (proper : IsSuffix suffix) :
    IsSubdomain (unshortened node suffix) := by
  have nonempty : suffix ≠ [] := List.ne_nil_of_length_eq_add_one proper.length_eq
  have ending := isSeamless_of_forall_mem_alphabet nonempty proper.mem_alphabet
  rw [isSubdomain_iff_isSeamless] at valid ⊢
  have whole := (isSeamless_stem.append_dash valid).append_dash ending
  simpa [unshortened] using whole

/-- Names are shortened to their limit, and to valid names if they are valid; so a node with a
valid name has probe resources with valid names of limited length. -/
theorem shortening_keeps_names_valid
    {limit : Int}
    (enough : 2 ≤ limit) :
    (∀ name, ∃ short,
        shorten? limit name = some short ∧
          (short.length : Int) ≤ limit ∧
          ((name.length : Int) ≤ limit → short = name) ∧
          (IsSubdomain name → IsSubdomain short)) ∧
      ∀ node suffix, IsSubdomain node.toList → IsSuffix suffix →
        IsSubdomain (probe node suffix).toList ∧ (probe node suffix).length ≤ 63 := by
  constructor
  · intro name
    exact ⟨shorten limit name, shorten?_eq_some enough name, length_shorten_le enough name,
      shorten_of_length_le, fun valid => valid.shorten enough⟩
  · intro node suffix valid proper
    have wide : (2 : Int) ≤ maximumLength := by decide
    have short := length_shorten_le wide (unshortened node.toList suffix)
    have named : (probe node suffix).toList =
        Name.shorten maximumLength (unshortened node.toList suffix) :=
      String.toList_ofList
    rw [named, ← String.length_toList, named]
    exact ⟨(isSubdomain_unshortened valid proper).shorten wide, Int.ofNat_le.mp short⟩

/-- A name that is cut beside a dash and a dot. -/
theorem shortening_keeps_names_valid_seam :
    (2 : Int) ≤ 5 ∧
      shorten? 5 "a-b.cd".toList = some "a-cd".toList ∧
      IsSubdomain "a-b.cd".toList ∧
      IsSubdomain "a-cd".toList := by
  have valid : IsSubdomain "a-b.cd".toList := by decide
  obtain ⟨short, shortened, -, -, kept⟩ :=
    (shortening_keeps_names_valid (by decide : (2 : Int) ≤ 5)).1 "a-b.cd".toList
  have cut : shorten? 5 "a-b.cd".toList = some "a-cd".toList := by decide
  obtain rfl : short = "a-cd".toList := Option.some.inj (shortened.symm.trans cut)
  exact ⟨by decide, cut, valid, kept valid⟩

end Name
end Headroom
