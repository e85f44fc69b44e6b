import Headroom.Proofs.Report.Content
import Headroom.Proofs.Report.MountTable
import Headroom.Proofs.Text.Rows
import Mathlib.Data.List.Induction

/-!
# The mount points of tables written one after the other

A table that is written below another one adds mount points to those of the other, behind
them and in its own order, and only the ones that are new.  So the list of mount points is an
ordered union over the lines of a table.

Where there is no mount point a table is refused.  That refusal stands for the empty list
here, whether it is one part of a table that has none or the whole.
-/

namespace Headroom
namespace Report

section Insertions

variable {items others : List (List Char)}

/-- Items that are inserted behind a list of distinct ones leave it one of distinct items. -/
theorem nodup_foldl_insertLast (distinct : items.Nodup) :
    (others.foldl insertLast items).Nodup := by
  induction others generalizing items with
  | nil => exact distinct
  | cons first rest inductionHypothesis =>
      apply inductionHypothesis
      unfold insertLast
      split
      · exact distinct
      · rename_i unlisted
        rw [List.nodup_append]
        refine ⟨distinct, List.pairwise_singleton _ first, ?_⟩
        intro item listed other present same
        apply unlisted
        rwa [← List.mem_singleton.mp present, ← same]

/-- Inserting items behind a list adds those of their distinct ones that it does not hold. -/
theorem foldl_insertLast_eq (items others : List (List Char)) :
    others.foldl insertLast items =
      items ++ (others.foldl insertLast []).filter (· ∉ items) := by
  -- The last item that is inserted decides, so the induction takes items off the end.
  induction others using List.reverseRecOn with
  | nil => simp
  | append_singleton earlier item inductionHypothesis =>
      simp only [List.foldl_append, List.foldl_cons, List.foldl_nil, inductionHypothesis]
      generalize earlier.foldl insertLast [] = inserted
      unfold insertLast
      by_cases listed : item ∈ items
      · by_cases present : item ∈ inserted <;> simp [listed, present]
      · by_cases present : item ∈ inserted <;> simp [listed, present]

end Insertions

/-- A row mounts a place: its first word is no comment, and its second one is the place, which is
an absolute path. -/
def RowMounts
    (row : List (List Char))
    (place : List Char) : Prop :=
  ∃ device rest, row = device :: place :: rest ∧
    device.head? ≠ some '#' ∧ place.head? = some '/'

theorem mountPoint?_eq_some_iff
    {row : List (List Char)}
    {place : List Char} :
    mountPoint? row = some place ↔ RowMounts row place := by
  match row with
  | [] => simp [mountPoint?, RowMounts]
  | [device] => simp [mountPoint?, RowMounts]
  | device :: second :: rest =>
      simp only [mountPoint?, RowMounts, Option.ite_none_right_eq_some, Option.some.injEq,
        List.cons.injEq]
      constructor
      · rintro ⟨⟨plain, absolute⟩, rfl⟩
        exact ⟨device, rest, ⟨rfl, rfl, rfl⟩, plain, absolute⟩
      · rintro ⟨_, _, ⟨rfl, rfl, rfl⟩, plain, absolute⟩
        exact ⟨⟨plain, absolute⟩, rfl⟩

/-- The mount points of a table, a table that is refused for having none counting as one with an
empty list. -/
def mountPointsOrNone (table : List Char) : Except Error (List (List Char)) :=
  match mountPoints table with
  | .error (.malformed .noMountPoint) => .ok []
  | outcome => outcome

section Tables

variable {before after table : List Char} {place : List Char}

/-- There is no other reason for which a table of mount points is refused. -/
theorem mountPointsOrNone_eq (table : List Char) :
    mountPointsOrNone table = .ok (mountPointsOfRows (textRows table)) := by
  unfold mountPointsOrNone mountPoints
  cases mountPointsOfRows (textRows table) <;> rfl

/-- The rows below others add the mount points that are new. -/
theorem mountPointsOfRows_append (rows others : List (List (List Char))) :
    mountPointsOfRows (rows ++ others) =
      mountPointsOfRows rows ++
        (mountPointsOfRows others).filter (· ∉ mountPointsOfRows rows) := by
  unfold mountPointsOfRows
  rw [List.filterMap_append, List.foldl_append]
  apply foldl_insertLast_eq

theorem nodup_mountPointsOfRows (rows : List (List (List Char))) :
    (mountPointsOfRows rows).Nodup := by
  unfold mountPointsOfRows
  exact nodup_foldl_insertLast List.nodup_nil

/-- The mount points are the places that the rows mount. -/
theorem mem_mountPointsOfRows_iff_rowMounts {rows : List (List (List Char))} :
    place ∈ mountPointsOfRows rows ↔ ∃ row ∈ rows, RowMounts row place := by
  simp only [mountPointsOfRows, mem_foldl_insertLast, List.not_mem_nil, false_or,
    List.mem_filterMap, mountPoint?_eq_some_iff]

/-- The place that a row of a table mounts is a word. -/
theorem isWord_of_rowMounts
    {row : List (List Char)}
    (listed : row ∈ textRows table)
    (mounts : RowMounts row place) :
    IsWord place := by
  obtain ⟨device, rest, rfl, -⟩ := mounts
  exact isWord_of_mem_textRows listed (by simp)

end Tables

/-- The mount points of a whole are those of a first part, and then those of a second part that
are not among them, in their order. -/
def IsOrderedUnion (first second whole : Content) : Prop :=
  ∃ earlier later,
    mountPointsOrNone first.chars = .ok earlier ∧
      mountPointsOrNone second.chars = .ok later ∧
      mountPointsOrNone whole.chars = .ok (earlier ++ later.filter (· ∉ earlier))

theorem isOrderedUnion_of_textRows
    {first second whole : Content}
    (rows : textRows whole.chars = textRows first.chars ++ textRows second.chars) :
    IsOrderedUnion first second whole := by
  refine ⟨_, _, mountPointsOrNone_eq _, mountPointsOrNone_eq _, ?_⟩
  rw [mountPointsOrNone_eq, rows, mountPointsOfRows_append]

/-- The mount points of two reports with a line feed between them are those of the first report and
then those of the second one that are new, whether the reports come as text or as bytes.  The mount
points of any report are distinct words, and they are the places that its rows mount. -/
theorem mountPoints_form_ordered_union :
    (∀ before after : List Char,
        IsOrderedUnion (.text before) (.text after) (.text (before ++ '\n' :: after))) ∧
      (∀ before after : List UInt8,
        IsOrderedUnion (.bytes before) (.bytes after) (.bytes (before ++ 0x0A :: after))) ∧
      ∀ content : Content, ∃ places,
        mountPointsOrNone content.chars = .ok places ∧
          places.Nodup ∧
          (∀ place ∈ places, ∀ char ∈ place, isBlank char = false) ∧
          ∀ place, place ∈ places ↔ ∃ row ∈ textRows content.chars, RowMounts row place := by
  refine ⟨?_, ?_, ?_⟩
  · intro before after
    apply isOrderedUnion_of_textRows
    exact textRows_append_lineEnd rfl before after
  · intro before after
    apply isOrderedUnion_of_textRows
    exact textRows_bytes_append_lineFeed before after
  · intro content
    refine ⟨_, mountPointsOrNone_eq content.chars, nodup_mountPointsOfRows _, ?_, ?_⟩
    · intro place listed
      obtain ⟨row, present, mounts⟩ := mem_mountPointsOfRows_iff_rowMounts.mp listed
      exact (isWord_of_rowMounts present mounts).plain
    · intro place
      exact mem_mountPointsOfRows_iff_rowMounts

/-- A table that has no mount point adds none, and one that repeats some adds the others. -/
example :
    mountPointsOrNone "# static".toList = .ok [] ∧
      mountPointsOrNone "/dev/sda2 / xfs\n/dev/sdb1 /var xfs".toList =
        .ok ["/".toList, "/var".toList] ∧
      mountPointsOrNone
          "# static\n/dev/sda2 / xfs\n/dev/sdb1 /var xfs\nnfs /srv nfs\nnfs / nfs".toList =
        .ok ["/".toList, "/var".toList, "/srv".toList] := by
  decide

end Report
end Headroom
