import Headroom.Probe.Measurement
import Headroom.Proofs.Report.MountPoint
import Mathlib.Logic.Relation

/-!
# What a mount table says about the root volume

A mount table is read line by line.  A line either mounts one place or is idle: it is
blank, a comment, a single word, swap space, or about a place that is no absolute path.

Whether a path lies on the root volume of a node depends on the places that the lines
of its mount table mount and on nothing else.  So lines may be put into another order or
repeated, and idle lines may be added, without any change; and further lines never bring
a path back to the root volume.
-/

namespace Headroom
namespace Report

/-- The place that a line of a mount table mounts, if there is one. -/
def placeOfLine? (line : List Char) : Option (List Char) :=
  mountPoint? (textWords line)

/-- A line by which nothing is mounted. -/
inductive IsIdle (line : List Char) : Prop
  | blank
      (words : textWords line = [])
  | single
      {word : List Char}
      (words : textWords line = [word])
  | comment
      {word : List Char}
      {rest : List (List Char)}
      (words : textWords line = ('#' :: word) :: rest)
  | swap
      {device : List Char}
      {rest : List (List Char)}
      (words : textWords line = device :: "none".toList :: rest)
  | relative
      {device place : List Char}
      {rest : List (List Char)}
      (words : textWords line = device :: place :: rest)
      (notAbsolute : place.head? ≠ some '/')

/-- Idle lines are those that mount no place. -/
theorem placeOfLine?_eq_none_iff {line : List Char} :
    placeOfLine? line = none ↔ IsIdle line := by
  unfold placeOfLine?
  constructor
  · intro nothing
    match words : textWords line with
    | [] => exact .blank words
    | [word] => exact .single words
    | device :: place :: rest =>
        by_cases absolute : place.head? = some '/'
        · match device with
          | '#' :: word => exact .comment words
          | [] => simp [words, mountPoint?, absolute] at nothing
          | first :: word =>
              by_cases comments : first = '#'
              · subst comments
                exact .comment words
              · simp [words, mountPoint?, absolute, comments] at nothing
        · exact .relative words absolute
  · rintro (words | words | words | words | ⟨words, notAbsolute⟩)
    · rw [words]
      rfl
    · rw [words]
      rfl
    · rw [words]
      cases ‹List (List Char)› <;> simp [mountPoint?]
    · rw [words]
      simp [mountPoint?]
    · rw [words]
      simp [mountPoint?, notAbsolute]

/-- The place that a line mounts is an absolute path. -/
theorem head?_of_placeOfLine?
    {line place : List Char}
    (mounted : placeOfLine? line = some place) :
    place.head? = some '/' := by
  unfold placeOfLine? mountPoint? at mounted
  split at mounted
  · split at mounted
    · rename_i absolute
      cases mounted
      exact absolute.2
    · cases mounted
  · cases mounted

/-- Some line of a table mounts a place. -/
def Mounts (table place : List Char) : Prop :=
  ∃ line ∈ textLines table, placeOfLine? line = some place

section Tables

variable {table place : List Char}

theorem mem_foldl_insertLast
    {α : Type}
    [DecidableEq α]
    {items others : List α}
    {item : α} :
    item ∈ others.foldl insertLast items ↔ item ∈ items ∨ item ∈ others := by
  induction others generalizing items with
  | nil => simp
  | cons other rest inductionHypothesis =>
      rw [List.foldl_cons, inductionHypothesis, insertLast]
      split
      · rename_i present
        rw [List.mem_cons]
        constructor
        · rintro (earlier | later)
          · exact .inl earlier
          · exact .inr (.inr later)
        · rintro (earlier | rfl | later)
          · exact .inl earlier
          · exact .inl present
          · exact .inr later
      · rw [List.mem_append, List.mem_singleton, List.mem_cons, or_assoc]

/-- The mount points of the rows of a table are the places that its lines mount. -/
theorem mem_mountPointsOfRows_iff :
    place ∈ mountPointsOfRows (textRows table) ↔ Mounts table place := by
  have empty : mountPoint? [] = none := rfl
  simp only [mountPointsOfRows, mem_foldl_insertLast, List.not_mem_nil, false_or,
    List.mem_filterMap, textRows, List.mem_filter, List.mem_map, Mounts, placeOfLine?]
  constructor
  · rintro ⟨row, ⟨⟨line, listed, rfl⟩, -⟩, mounted⟩
    exact ⟨line, listed, mounted⟩
  · rintro ⟨line, listed, mounted⟩
    refine ⟨textWords line, ⟨⟨line, listed, rfl⟩, ?_⟩, mounted⟩
    cases words : textWords line with
    | nil =>
        rw [words, empty] at mounted
        cases mounted
    | cons first rest => rfl

/-- A table has mount points exactly if its lines mount anything, and they are what is mounted. -/
theorem mountPoints_cases (table : List Char) :
    (mountPoints table = .error (.malformed .noMountPoint) ∧ ∀ place, ¬Mounts table place) ∨
      ∃ places, mountPoints table = .ok places ∧ (∃ place, Mounts table place) ∧
        ∀ place, place ∈ places ↔ Mounts table place := by
  have listed (place : List Char) := @mem_mountPointsOfRows_iff table place
  unfold mountPoints
  match places : mountPointsOfRows (textRows table) with
  | [] =>
      refine .inl ⟨rfl, fun place mounted => ?_⟩
      have present := (listed place).mpr mounted
      rw [places] at present
      cases present
  | first :: others =>
      rw [places] at listed
      exact .inr ⟨first :: others, rfl, ⟨first, (listed first).mp List.mem_cons_self⟩, listed⟩

end Tables

/-- Whether a path lies on the root volume of the node with a mount table, if that mounts
anything. -/
def liesOnRoot
    (path : Text)
    (table : List Char) :
    Except Error Bool :=
  (mountPoints table).map fun places => isRootVolume path (places.map Text.ofChars)

/-- A sample says where the base path lies by the mount table of the node. -/
theorem liesOnRoot_of_sampleOfReports
    {checker : Probe.Checker}
    {basePath : Text}
    {usageReport mountsReport : String}
    {sample : Sample}
    (read : checker.sampleOfReports basePath usageReport mountsReport = .ok sample) :
    liesOnRoot basePath mountsReport.toList = .ok sample.rootVolume := by
  unfold Probe.Checker.sampleOfReports at read
  unfold liesOnRoot
  cases usage : diskUsage checker.mountPath.toList usageReport.toList with
  | error error =>
      rw [usage] at read
      cases read
  | ok found =>
      rw [usage] at read
      cases places : mountPoints mountsReport.toList with
      | error error =>
          rw [places] at read
          cases read
      | ok listed =>
          rw [places] at read
          cases read
          rfl

section Root

variable {path : Text} {table other : List Char}

/-- The root, as the text that it is in a mount table. -/
theorem ofChars_eq_singleton_slash_iff {place : List Char} :
    Text.ofChars place = [slash] ↔ place = ['/'] := by
  simp [Text.ofChars, slash]

/-- A path does not lie on the root volume exactly if some place that is mounted contains it and is
not the root. -/
theorem liesOnRoot_eq_ok_false_iff :
    liesOnRoot path table = .ok false ↔
      ∃ place, Mounts table place ∧ contains (Text.ofChars place) path = true ∧
        place ≠ ['/'] := by
  unfold liesOnRoot
  rcases mountPoints_cases table with ⟨unread, nothing⟩ | ⟨places, read, -, listed⟩
  · rw [unread]
    refine ⟨nofun, ?_⟩
    rintro ⟨place, mounted, -⟩
    exact (nothing place mounted).elim
  · have absolute : ∀ mountPoint ∈ places.map Text.ofChars, mountPoint.head? = some slash := by
      intro mountPoint present
      obtain ⟨place, inTable, rfl⟩ := List.mem_map.mp present
      obtain ⟨line, -, mounted⟩ := (listed place).mp inTable
      rw [Text.ofChars, List.head?_map, head?_of_placeOfLine? mounted]
      rfl
    rw [read, Except.map, Except.ok.injEq, ← Bool.not_eq_true, isRootVolume_eq_true_iff absolute]
    simp only [List.forall_mem_map, ofChars_eq_singleton_slash_iff, listed,
      Classical.not_forall, exists_prop, ne_eq]

/-- Tables that mount the same places give the same answer, also if they mount none. -/
theorem liesOnRoot_congr
    (same : ∀ place, Mounts table place ↔ Mounts other place) :
    liesOnRoot path table = liesOnRoot path other := by
  have not_root : liesOnRoot path table = .ok false ↔ liesOnRoot path other = .ok false := by
    simp only [liesOnRoot_eq_ok_false_iff, same]
  have first := mountPoints_cases table
  have second := mountPoints_cases other
  simp only [same] at first
  unfold liesOnRoot at not_root ⊢
  rcases first with ⟨unread, nothing⟩ | ⟨places, read, something, -⟩
  · rcases second with ⟨alsoUnread, -⟩ | ⟨_, _, ⟨place, mounted⟩, -⟩
    · rw [unread, alsoUnread]
    · exact (nothing place mounted).elim
  · rcases second with ⟨-, nothing⟩ | ⟨others, alsoRead, -, -⟩
    · obtain ⟨place, mounted⟩ := something
      exact (nothing place mounted).elim
    · rw [read, alsoRead] at not_root ⊢
      simp only [Except.map, Except.ok.injEq] at not_root ⊢
      exact Bool.eq_iff_iff.mpr (by simpa using not_congr not_root)

end Root

/-- A change of the lines of a table by which nothing else is mounted. -/
inductive Edit : List (List Char) → List (List Char) → Prop
  | reordered
      {lines others : List (List Char)}
      (reordered : lines.Perm others) :
      Edit lines others
  | repeated
      {before after : List (List Char)}
      {line : List Char}
      (present : line ∈ before ++ after) :
      Edit (before ++ after) (before ++ line :: after)
  | idled
      {before after : List (List Char)}
      {line : List Char}
      (idle : IsIdle line) :
      Edit (before ++ after) (before ++ line :: after)

/-- An edit leaves the places as they are that lines mount. -/
theorem Edit.mounted_iff
    {lines others : List (List Char)}
    (edit : Edit lines others)
    (place : List Char) :
    (∃ line ∈ lines, placeOfLine? line = some place) ↔
      ∃ line ∈ others, placeOfLine? line = some place := by
  cases edit with
  | reordered reordered => simp only [reordered.mem_iff]
  | @repeated before after repeatedLine present =>
      have same (line : List Char) :
          line ∈ before ++ repeatedLine :: after ↔ line ∈ before ++ after := by
        rw [List.mem_append] at present
        simp only [List.mem_append, List.mem_cons]
        constructor
        · rintro (earlier | rfl | later)
          · exact .inl earlier
          · exact present
          · exact .inr later
        · exact Or.imp_right .inr
      simp only [same]
  | @idled before after idleLine idle =>
      have nothing := placeOfLine?_eq_none_iff.mpr idle
      constructor
      · rintro ⟨line, listed, mounted⟩
        refine ⟨line, ?_, mounted⟩
        rw [List.mem_append] at listed
        exact List.mem_append.mpr (listed.imp_right (List.mem_cons_of_mem idleLine))
      · rintro ⟨line, listed, mounted⟩
        rcases List.mem_append.mp listed with earlier | later
        · exact ⟨line, List.mem_append_left after earlier, mounted⟩
        · rcases List.mem_cons.mp later with rfl | later
          · rw [nothing] at mounted
            cases mounted
          · exact ⟨line, List.mem_append_right before later, mounted⟩

/-- Any number of edits, made or undone, leave the places as they are that lines mount. -/
theorem mounted_iff_of_edits
    {lines others : List (List Char)}
    (edits : Relation.EqvGen Edit lines others)
    (place : List Char) :
    (∃ line ∈ lines, placeOfLine? line = some place) ↔
      ∃ line ∈ others, placeOfLine? line = some place := by
  induction edits with
  | rel first second edit => exact edit.mounted_iff place
  | refl lines => rfl
  | symm first second _ inductionHypothesis => exact inductionHypothesis.symm
  | trans first second third _ _ left right => exact left.trans right

/-- Whether a path lies on the root volume stays as it is when the lines of a mount table are put
into another order or repeated, and when idle lines are added or taken away; a path that does not
lie there does not come to lie there by further lines. -/
theorem liesOnRoot_of_lines (path : Text) :
    (∀ table other, Relation.EqvGen Edit (textLines table) (textLines other) →
        liesOnRoot path other = liesOnRoot path table) ∧
      ∀ table larger, textLines table ⊆ textLines larger →
        liesOnRoot path table = .ok false → liesOnRoot path larger = .ok false := by
  refine ⟨?_, ?_⟩
  · intro table other edits
    exact (liesOnRoot_congr (mounted_iff_of_edits edits)).symm
  · intro table larger kept away
    obtain ⟨place, ⟨line, listed, mounted⟩, contained, notRoot⟩ :=
      liesOnRoot_eq_ok_false_iff.mp away
    exact liesOnRoot_eq_ok_false_iff.mpr
      ⟨place, ⟨line, kept listed, mounted⟩, contained, notRoot⟩

/-- A line that mounts the root. -/
def rootLine : List Char := "/dev/sda2 / xfs defaults 1 1".toList

/-- A line that mounts a volume beside the root. -/
def volumeLine : List Char := "/dev/sdb1 /var xfs defaults 1 2".toList

/-- A line that is a comment. -/
def commentLine : List Char := "# static".toList

/-- A line about swap space. -/
def swapLine : List Char := "/dev/sda3 none swap sw 0 0".toList

/-- A mount table with a volume beside the root. -/
def twoVolumes : List Char :=
  rootLine ++ '\n' :: volumeLine

/-- The same volumes in another order, one of them twice, with idle lines between them. -/
def rearrangedVolumes : List Char :=
  commentLine ++ '\n' :: volumeLine ++ '\r' :: '\n' :: swapLine ++ '\n' :: '\n' :: rootLine ++
    '\n' :: volumeLine

theorem edits_rearrangedVolumes :
    Relation.EqvGen Edit (textLines twoVolumes) (textLines rearrangedVolumes) := by
  have lines : textLines twoVolumes = [rootLine, volumeLine] := by decide
  have rearranged :
      textLines rearrangedVolumes =
        [commentLine, volumeLine, swapLine, rootLine, volumeLine] := by
    decide
  have comment_words :
      textWords commentLine = ('#' :: []) :: ["static".toList] := by decide
  have swap_words :
      textWords swapLine =
        "/dev/sda3".toList :: "none".toList ::
          ["swap".toList, "sw".toList, "0".toList, "0".toList] := by
    decide
  rw [lines, rearranged]
  have reordered : Edit [rootLine, volumeLine] [volumeLine, rootLine] :=
    .reordered (.swap volumeLine rootLine [])
  have repeatedLast :
      Edit ([volumeLine, rootLine] ++ []) ([volumeLine, rootLine] ++ [volumeLine]) :=
    .repeated (by simp)
  have commented :
      Edit ([] ++ [volumeLine, rootLine, volumeLine])
        ([] ++ commentLine :: [volumeLine, rootLine, volumeLine]) :=
    .idled (.comment comment_words)
  have swapped :
      Edit ([commentLine, volumeLine] ++ [rootLine, volumeLine])
        ([commentLine, volumeLine] ++ swapLine :: [rootLine, volumeLine]) :=
    .idled (.swap swap_words)
  exact .trans _ _ _ (.rel _ _ reordered) (.trans _ _ _ (.rel _ _ repeatedLast)
    (.trans _ _ _ (.rel _ _ commented) (.rel _ _ swapped)))

theorem liesOnRoot_of_lines_volumes :
    Relation.EqvGen Edit (textLines twoVolumes) (textLines rearrangedVolumes) ∧
      textLines twoVolumes ⊆ textLines rearrangedVolumes ∧
      liesOnRoot (Text.ofString "/var/local") twoVolumes = .ok false ∧
      liesOnRoot (Text.ofString "/var/local") rearrangedVolumes =
        liesOnRoot (Text.ofString "/var/local") twoVolumes ∧
      liesOnRoot (Text.ofString "/var/local") rearrangedVolumes = .ok false := by
  have kept : textLines twoVolumes ⊆ textLines rearrangedVolumes := by decide
  have away : liesOnRoot (Text.ofString "/var/local") twoVolumes = .ok false := rfl
  obtain ⟨rearranged, extended⟩ := liesOnRoot_of_lines (Text.ofString "/var/local")
  exact ⟨edits_rearrangedVolumes, kept, away, rearranged _ _ edits_rearrangedVolumes,
    extended _ _ kept away⟩

end Report
end Headroom
