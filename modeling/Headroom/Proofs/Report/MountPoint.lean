import Headroom.Report.MountPoint

/-!
# Which mount point decides

Of the mount points that contain a path a longest one is chosen, and which of several
longest ones that is depends on their order.  Whether the path lies on the root volume
does not: a mount point that begins with a slash and is no longer than the root is the
root itself.
-/

namespace Headroom

section Longest

variable {found : Option Text} {candidates : List Text}

/-- The longer of two mount points is one of them, and neither is longer than it. -/
theorem longerMountPoint_some_cases (earlier candidate : Text) :
    ∃ longer, longerMountPoint (some earlier) candidate = some longer ∧
      (longer = earlier ∨ longer = candidate) ∧
        earlier.length ≤ longer.length ∧ candidate.length ≤ longer.length := by
  dsimp only [longerMountPoint]
  split
  · exact ⟨candidate, rfl, .inr rfl, by omega, Nat.le_refl _⟩
  · exact ⟨earlier, rfl, .inl rfl, Nat.le_refl _, by omega⟩

/-- What is found in the end was found before or is a candidate, and nothing of that is longer. -/
theorem longest_of_foldl
    {longest : Text}
    (chosen : candidates.foldl longerMountPoint found = some longest) :
    longest ∈ found.toList ++ candidates ∧
      ∀ other ∈ found.toList ++ candidates, other.length ≤ longest.length := by
  induction candidates generalizing found with
  | nil =>
      rw [List.foldl_nil] at chosen
      simp [chosen]
  | cons candidate others inductionHypothesis =>
      rw [List.foldl_cons] at chosen
      obtain ⟨listed, bounds⟩ := inductionHypothesis chosen
      cases found with
      | none => exact ⟨listed, bounds⟩
      | some earlier =>
          obtain ⟨longer, longer_eq, choice, earlier_le, candidate_le⟩ :=
            longerMountPoint_some_cases earlier candidate
          simp only [longer_eq, Option.toList_some, List.cons_append, List.nil_append,
            List.mem_cons, forall_eq_or_imp] at listed bounds ⊢
          obtain ⟨longer_le, others_le⟩ := bounds
          refine ⟨?_, Nat.le_trans earlier_le longer_le, Nat.le_trans candidate_le longer_le,
            others_le⟩
          rcases listed with rfl | later
          · exact choice.imp_right .inl
          · exact .inr (.inr later)

/-- Nothing is found only if there was nothing before and there is no candidate. -/
theorem eq_nil_of_foldl_eq_none
    (unfound : candidates.foldl longerMountPoint found = none) :
    found = none ∧ candidates = [] := by
  induction candidates generalizing found with
  | nil => exact ⟨unfound, rfl⟩
  | cons candidate others inductionHypothesis =>
      obtain ⟨impossible, -⟩ := inductionHypothesis unfound
      cases found with
      | none => cases impossible
      | some earlier =>
          obtain ⟨longer, longer_eq, -⟩ := longerMountPoint_some_cases earlier candidate
          rw [longer_eq] at impossible
          cases impossible

end Longest

section Deciding

variable {path : Text} {mountPoints : List Text}

/-- A path has no mount point exactly if none of the list contains it. -/
theorem mountPointFor?_eq_none_iff :
    mountPointFor? path mountPoints = none ↔
      ∀ mountPoint ∈ mountPoints, contains mountPoint path = false := by
  constructor
  · intro unfound
    obtain ⟨-, nothing⟩ := eq_nil_of_foldl_eq_none unfound
    simpa using nothing
  · intro uncontained
    have nothing : mountPoints.filter (contains · path) = [] := by simpa using uncontained
    rw [mountPointFor?, nothing]
    rfl

/-- The mount point of a path is one of the list that contains it, and none of those is longer. -/
theorem longest_of_mountPointFor?
    {longest : Text}
    (chosen : mountPointFor? path mountPoints = some longest) :
    longest ∈ mountPoints ∧ contains longest path = true ∧
      ∀ other ∈ mountPoints, contains other path = true → other.length ≤ longest.length := by
  obtain ⟨listed, bounds⟩ := longest_of_foldl chosen
  simp only [Option.toList_none, List.nil_append, List.mem_filter] at listed bounds
  exact ⟨listed.1, listed.2, fun other present contained => bounds other ⟨present, contained⟩⟩

/-- A path whose mount points are absolute lies on the root volume exactly if no mount point
contains it but the root. -/
theorem isRootVolume_eq_true_iff
    (absolute : ∀ mountPoint ∈ mountPoints, mountPoint.head? = some slash) :
    isRootVolume path mountPoints = true ↔
      ∀ mountPoint ∈ mountPoints, contains mountPoint path = true → mountPoint = [slash] := by
  unfold isRootVolume
  cases chosen : mountPointFor? path mountPoints with
  | none =>
      have uncontained := mountPointFor?_eq_none_iff.mp chosen
      refine ⟨fun _ mountPoint present contained => ?_, fun _ => rfl⟩
      rw [uncontained mountPoint present] at contained
      cases contained
  | some longest =>
      obtain ⟨listed, contained, bounds⟩ := longest_of_mountPointFor? chosen
      rw [beq_iff_eq]
      constructor
      · rintro rfl mountPoint present alsoContained
        -- A mount point that is no longer than the root consists of its first slash.
        have short := bounds mountPoint present alsoContained
        have begins := absolute mountPoint present
        match mountPoint with
        | [] => cases begins
        | [first] =>
            obtain rfl := Option.some.inj begins
            rfl
        | first :: second :: rest =>
            simp at short
      · intro onlyRoot
        exact onlyRoot longest listed contained

end Deciding
end Headroom
