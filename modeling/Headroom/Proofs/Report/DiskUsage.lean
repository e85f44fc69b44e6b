import Headroom.Proofs.Text.Digit
import Headroom.Proofs.Text.Rows
import Headroom.Report.Content
import Headroom.Report.DiskUsage

/-!
# What a usage table says about a mount path

One row of a table decides: the first one of five words or more that ends in the mount
path.  The bytes in use, the bytes that are free and the share are the words before that.

A usage that is written into such a row, with any blanks and between any other lines, is
read back, as long as its numbers are not too long.  Numbers that are too long are the
only reason for which a table is neither read nor called malformed.
-/

namespace Headroom
namespace Report

/-- A row that is about a mount path. -/
def IsCandidate
    (mountPath : List Char)
    (row : List (List Char)) : Prop :=
  5 ≤ row.length ∧ row.getLast? = some mountPath

/-- The first row about a mount path has two words as its columns of free and of used bytes. -/
def Decides
    (mountPath : List Char)
    (table : List Char)
    (available used : List Char) : Prop :=
  ∃ before front share after,
    textRows table = before ++ (front ++ [used, available, share, mountPath]) :: after ∧
      front ≠ [] ∧
      ∀ row ∈ before, ¬IsCandidate mountPath row

/-- A count with more digits than are converted. -/
def IsOversized (word : List Char) : Prop :=
  isCount word = true ∧ Numeral.maximumDigits < word.length

section Columns

variable {mountPath available used : List Char} {row : List (List Char)}

/-- The columns of a row are counted from its end. -/
theorem usageColumns?_eq_some_iff :
    usageColumns? mountPath row = some (available, used) ↔
      ∃ front share, front ≠ [] ∧ row = front ++ [used, available, share, mountPath] := by
  constructor
  · intro columns
    unfold usageColumns? at columns
    split at columns
    · rename_i mounted share available used last earlier reversed
      split at columns
      · rename_i same
        cases columns
        refine ⟨earlier.reverse ++ [last], share, by simp, ?_⟩
        rw [← List.reverse_reverse row, reversed, same]
        simp
      · cases columns
    · cases columns
  · rintro ⟨front, share, nonempty, rfl⟩
    obtain ⟨start, last, rfl⟩ := List.eq_nil_or_concat front |>.resolve_left nonempty
    simp [usageColumns?]

/-- Rows about the mount path are those that have the columns. -/
theorem isCandidate_iff :
    IsCandidate mountPath row ↔
      ∃ available used, usageColumns? mountPath row = some (available, used) := by
  constructor
  · rintro ⟨long, last⟩
    rw [← List.length_reverse] at long
    rw [← List.head?_reverse] at last
    unfold usageColumns?
    match row.reverse, long, last with
    | mounted :: share :: available :: used :: first :: earlier, _, last =>
        obtain rfl : mounted = mountPath := Option.some.inj last
        exact ⟨available, used, if_pos rfl⟩
  · rintro ⟨available, used, columns⟩
    obtain ⟨front, share, nonempty, rfl⟩ := usageColumns?_eq_some_iff.mp columns
    have positive := List.length_pos_iff.mpr nonempty
    refine ⟨?_, by simp⟩
    simp only [List.length_append, List.length_cons, List.length_nil]
    omega

theorem usageColumns?_eq_none_iff :
    usageColumns? mountPath row = none ↔ ¬IsCandidate mountPath row := by
  rw [isCandidate_iff, Option.eq_none_iff_forall_ne_some]
  simp

/-- Two words are the deciding columns exactly if they are those of the first row that has any. -/
theorem decides_iff {table : List Char} :
    Decides mountPath table available used ↔
      (textRows table).findSome? (usageColumns? mountPath) = some (available, used) := by
  rw [List.findSome?_eq_some_iff]
  constructor
  · rintro ⟨before, front, share, after, divided, nonempty, others⟩
    exact ⟨before, _, after, divided, usageColumns?_eq_some_iff.mpr ⟨front, share, nonempty, rfl⟩,
      fun row earlier => usageColumns?_eq_none_iff.mpr (others row earlier)⟩
  · rintro ⟨before, row, after, divided, columns, others⟩
    obtain ⟨front, share, nonempty, rfl⟩ := usageColumns?_eq_some_iff.mp columns
    exact ⟨before, front, share, after, divided, nonempty,
      fun row earlier => usageColumns?_eq_none_iff.mp (others row earlier)⟩

end Columns

section Counts

variable {column : String} {word : List Char}

/-- A word is refused as a count that is too long exactly if it is one. -/
theorem byteCount_eq_oversized_iff :
    byteCount column word = .error .oversizedCount ↔ IsOversized word := by
  unfold byteCount IsOversized
  split
  · rename_i isCount
    split
    · rename_i fits
      simp [isCount, Nat.not_lt.mpr fits]
    · rename_i unfit
      simp [isCount, Nat.not_le.mp unfit]
  · rename_i other
    simp [other]

/-- A count that is not too long is the number that its digits spell. -/
theorem byteCount_of_isCount
    (counts : isCount word = true)
    (fits : word.length ≤ Numeral.maximumDigits) :
    byteCount column word = .ok (naturalOfDigits word) := by
  rw [byteCount, if_pos counts, if_pos fits]

/-- A word that is read is a count. -/
theorem isCount_of_byteCount
    {value : Nat}
    (went : byteCount column word = .ok value) :
    isCount word = true := by
  unfold byteCount at went
  split at went
  · assumption
  · cases went

/-- A number written in decimal is a count. -/
theorem isCount_toDigits (number : Nat) : isCount (Nat.toDigits 10 number) = true := by
  have digits : ∀ char ∈ Nat.toDigits 10 number, isAsciiDigit char = true := by
    intro char present
    have digit := Nat.isDigit_of_mem_toDigits (by decide) (by decide) present
    exact isAsciiDigit_iff_toNat.mpr (Char.isDigit_iff_toNat.mp digit)
  rw [isCount, Bool.and_eq_true, List.all_eq_true]
  exact ⟨by simp [Nat.toDigits_ne_nil], digits⟩

/-- A count contains no blank. -/
theorem isWord_of_isCount (counts : isCount word = true) : IsWord word := by
  rw [isCount, Bool.and_eq_true, List.all_eq_true] at counts
  obtain ⟨nonempty, digits⟩ := counts
  exact ⟨by simpa using nonempty, fun char present => isBlank_of_isAsciiDigit (digits char present)⟩

end Counts

section Tables

variable {mountPath table available used : List Char}

/-- The deciding columns of a table are its disk usage. -/
theorem diskUsage_of_decides (decides : Decides mountPath table available used) :
    diskUsage mountPath table = (do
      let free ← byteCount "available" available
      let used ← byteCount "used" used
      return { free, used }) := by
  rw [diskUsage, decides_iff.mp decides]

/-- A table is refused for the length of a number exactly if its free bytes are too many digits, or
if its free bytes are a count and its used bytes are too many digits. -/
theorem diskUsage_eq_oversized_iff :
    diskUsage mountPath table = .error .oversizedCount ↔
      ∃ available used, Decides mountPath table available used ∧
        (IsOversized available ∨ isCount available = true ∧ IsOversized used) := by
  constructor
  · intro refused
    match columns : (textRows table).findSome? (usageColumns? mountPath) with
    | none => simp [diskUsage, columns] at refused
    | some (available, used) =>
        have decides := decides_iff.mpr columns
        refine ⟨available, used, decides, ?_⟩
        rw [diskUsage_of_decides decides] at refused
        cases free : byteCount "available" available with
        | error error =>
            rw [free] at refused
            cases refused
            exact .inl (byteCount_eq_oversized_iff.mp free)
        | ok amount =>
            refine .inr ⟨isCount_of_byteCount free, ?_⟩
            cases taken : byteCount "used" used with
            | error error =>
                rw [free, taken] at refused
                cases refused
                exact byteCount_eq_oversized_iff.mp taken
            | ok other =>
                rw [free, taken] at refused
                cases refused
  · rintro ⟨available, used, decides, reason⟩
    rw [diskUsage_of_decides decides]
    rcases reason with long | ⟨counts, long⟩
    · rw [byteCount_eq_oversized_iff.mpr long]
      rfl
    · have usedRefused : byteCount "used" used = .error .oversizedCount :=
        byteCount_eq_oversized_iff.mpr long
      rw [usedRefused]
      by_cases fits : available.length ≤ Numeral.maximumDigits
      · rw [byteCount_of_isCount counts fits]
        rfl
      · have alsoLong : IsOversized available := ⟨counts, Nat.not_le.mp fits⟩
        rw [byteCount_eq_oversized_iff.mpr alsoLong]
        rfl

end Tables

/-- A row about a mount path as it may be written: words with gaps behind them, then the used and
the free bytes, the share and the mount path, with blanks in between and around. -/
structure UsageRow where
  lead : List Char
  front : List (List Char × List Char)
  afterUsed : List Char
  afterAvailable : List Char
  share : List Char
  afterShare : List Char
  trail : List Char
  lead_isPadding : IsPadding lead
  front_ne_nil : front ≠ []
  front_proper : ∀ field ∈ front, IsWord field.1 ∧ IsGap field.2
  afterUsed_isGap : IsGap afterUsed
  afterAvailable_isGap : IsGap afterAvailable
  share_isWord : IsWord share
  afterShare_isGap : IsGap afterShare
  trail_isPadding : IsPadding trail

namespace UsageRow

/-- The fields of a row before the mount path, with the gaps behind them. -/
def fields
    (row : UsageRow)
    (used available : List Char) : List (List Char × List Char) :=
  row.front ++
    [(used, row.afterUsed), (available, row.afterAvailable), (row.share, row.afterShare)]

/-- The line that a row is written as. -/
def line
    (row : UsageRow)
    (used available mountPath : List Char) : List Char :=
  row.lead ++ spread (row.fields used available) ++ (mountPath ++ row.trail)

variable {used available mountPath : List Char}

theorem fields_proper
    (row : UsageRow)
    (usedProper : IsWord used)
    (availableProper : IsWord available) :
    ∀ field ∈ row.fields used available, IsWord field.1 ∧ IsGap field.2 := by
  intro field present
  rw [fields, List.mem_append] at present
  rcases present with before | counted
  · exact row.front_proper field before
  · simp only [List.mem_cons, List.not_mem_nil, or_false] at counted
    rcases counted with rfl | rfl | rfl
    · exact ⟨usedProper, row.afterUsed_isGap⟩
    · exact ⟨availableProper, row.afterAvailable_isGap⟩
    · exact ⟨row.share_isWord, row.afterShare_isGap⟩

/-- A line is read back as its words. -/
theorem textWords_line
    (row : UsageRow)
    (usedProper : IsWord used)
    (availableProper : IsWord available)
    (mounted : IsWord mountPath) :
    textWords (row.line used available mountPath) =
      row.front.map (·.1) ++ [used, available, row.share, mountPath] := by
  have words := textWords_spread_append (row.fields_proper usedProper availableProper)
    (mountPath ++ row.trail)
  rw [line, List.append_assoc, textWords_append_of_isPadding row.lead_isPadding, words,
    textWords_word_append mounted row.trail_isPadding]
  simp [fields]

/-- A line ends nowhere within. -/
theorem within_line
    (row : UsageRow)
    (usedProper : IsWord used)
    (availableProper : IsWord available)
    (mounted : IsWord mountPath) :
    ∀ char ∈ row.line used available mountPath, isLineEnd char = false := by
  intro char present
  simp only [line, spread, List.mem_append, List.mem_flatMap] at present
  rcases present with (lead | ⟨field, listed, within⟩) | mount | trail
  · exact row.lead_isPadding.within char lead
  · obtain ⟨isWord, isGap⟩ := row.fields_proper usedProper availableProper field listed
    rcases within with word | gap
    · exact isWord.within char word
    · exact isGap.within char gap
  · exact mounted.within char mount
  · exact row.trail_isPadding.within char trail

/-- A line is one row. -/
theorem textRows_line
    (row : UsageRow)
    (usedProper : IsWord used)
    (availableProper : IsWord available)
    (mounted : IsWord mountPath) :
    textRows (row.line used available mountPath) =
      [row.front.map (·.1) ++ [used, available, row.share, mountPath]] := by
  have words := row.textWords_line usedProper availableProper mounted
  rw [← words]
  refine textRows_of_line (row.within_line usedProper availableProper mounted) ?_
  rw [words]
  simp

/-- A line decides where no line before it is about the mount path. -/
theorem decides_line
    (row : UsageRow)
    (usedProper : IsWord used)
    (availableProper : IsWord available)
    (mounted : IsWord mountPath)
    {table : List Char}
    {before after : List (List (List Char))}
    (divided : textRows table = before ++ textRows (row.line used available mountPath) ++ after)
    (others : ∀ row ∈ before, ¬IsCandidate mountPath row) :
    Decides mountPath table available used := by
  rw [row.textRows_line usedProper availableProper mounted] at divided
  refine ⟨before, row.front.map (·.1), row.share, after, by simpa using divided, ?_, others⟩
  simpa using row.front_ne_nil

end UsageRow

/-- A row with a tab, a no-break space and a prefix in front of the device. -/
def prefixedRow : UsageRow where
  lead := " ".toList
  front := [("2024-01-01T00:00:00Z".toList, "\t".toList), ("tmpfs".toList, "  ".toList),
    ("90".toList, "\u00a0".toList)]
  afterUsed := " ".toList
  afterAvailable := "\t ".toList
  share := "58%".toList
  afterShare := " ".toList
  trail := " ".toList
  lead_isPadding := by decide
  front_ne_nil := by decide
  front_proper := by decide
  afterUsed_isGap := by decide
  afterAvailable_isGap := by decide
  share_isWord := by decide
  afterShare_isGap := by decide
  trail_isPadding := by decide

/-- A table is read or called malformed, unless a deciding number is too long: its free bytes, or
its used bytes beside free bytes that are a count. -/
theorem diskUsage_settled_iff
    (mountPath : List Char)
    (content : Content) :
    ((∃ usage, diskUsage mountPath content.chars = .ok usage) ∨
        ∃ reason, diskUsage mountPath content.chars = .error (.malformed reason)) ↔
      ¬∃ available used, Decides mountPath content.chars available used ∧
        (IsOversized available ∨ isCount available = true ∧ IsOversized used) := by
  rw [← diskUsage_eq_oversized_iff]
  match diskUsage mountPath content.chars with
  | .ok usage => simp
  | .error (.malformed reason) => simp
  | .error .oversizedCount => simp

/-- A table whose free bytes are one digit too long. -/
def oversizedTable : List Char :=
  prefixedRow.line "52".toList (List.replicate 4301 '1') defaultMountPath

theorem diskUsage_refuses_oversizedTable :
    diskUsage defaultMountPath oversizedTable = .error .oversizedCount ∧
      ¬((∃ usage, diskUsage defaultMountPath oversizedTable = .ok usage) ∨
        ∃ reason, diskUsage defaultMountPath oversizedTable = .error (.malformed reason)) := by
  have counts : isCount (List.replicate 4301 '1') = true := by
    rw [isCount, Bool.and_eq_true, List.all_eq_true]
    refine ⟨rfl, fun char present => ?_⟩
    rw [List.eq_of_mem_replicate present]
    rfl
  have long : IsOversized (List.replicate 4301 '1') := by
    refine ⟨counts, ?_⟩
    rw [List.length_replicate]
    decide
  have divided :
      textRows oversizedTable =
        [] ++ textRows (prefixedRow.line "52".toList (List.replicate 4301 '1') defaultMountPath) ++
          [] := by
    rw [List.nil_append, List.append_nil, oversizedTable]
  have decides := prefixedRow.decides_line (by decide) (isWord_of_isCount counts) (by decide)
    divided nofun
  have refused := diskUsage_eq_oversized_iff.mpr ⟨_, _, decides, .inl long⟩
  refine ⟨refused, ?_⟩
  rw [refused]
  simp

/-- A usage that is written into a row about a mount path is read back, whatever comes after the
row, and before it as long as that is not about the mount path. -/
theorem diskUsage_reads_back
    {mountPath before opening closing : List Char}
    (mounted : IsWord mountPath)
    (others : ∀ row ∈ textRows before, ¬IsCandidate mountPath row)
    (opens : IsLineBreak opening)
    (closes : IsLineBreak closing)
    (row : UsageRow)
    (after : List Char)
    (usage : DiskUsage)
    (freeFits : (Nat.toDigits 10 usage.free).length ≤ 4300)
    (usedFits : (Nat.toDigits 10 usage.used).length ≤ 4300) :
    diskUsage mountPath
        (before ++ opening ++
          row.line (Nat.toDigits 10 usage.used) (Nat.toDigits 10 usage.free) mountPath ++
          closing ++ after) =
      .ok usage := by
  have usedCounts := isCount_toDigits usage.used
  have freeCounts := isCount_toDigits usage.free
  generalize used_eq : Nat.toDigits 10 usage.used = used at usedFits usedCounts
  generalize free_eq : Nat.toDigits 10 usage.free = free at freeFits freeCounts
  have divided :
      textRows (before ++ opening ++ row.line used free mountPath ++ closing ++ after) =
        textRows before ++ textRows (row.line used free mountPath) ++ textRows after := by
    rw [textRows_append_lineBreak closes, textRows_append_lineBreak opens]
  have decides := row.decides_line (isWord_of_isCount usedCounts) (isWord_of_isCount freeCounts)
    mounted divided others
  rw [diskUsage_of_decides decides, byteCount_of_isCount freeCounts freeFits,
    byteCount_of_isCount usedCounts usedFits, ← free_eq, ← used_eq, naturalOfDigits_toDigits,
    naturalOfDigits_toDigits]
  rfl

theorem diskUsage_reads_back_prefixed :
    IsWord defaultMountPath ∧
      (∀ row ∈ textRows "Used Available Use% Mounted /data/x".toList,
        ¬IsCandidate defaultMountPath row) ∧
      IsLineBreak ['\r', '\n'] ∧
      IsLineBreak ['\u2028'] ∧
      (Nat.toDigits 10 38).length ≤ 4300 ∧
      (Nat.toDigits 10 52).length ≤ 4300 ∧
      diskUsage defaultMountPath
          ("Used Available Use% Mounted /data/x".toList ++ ['\r', '\n'] ++
            prefixedRow.line "52".toList "38".toList defaultMountPath ++ ['\u2028'] ++
            "tmpfs 4 2 1 50% /data".toList) =
        .ok { free := 38, used := 52 } := by
  have mounted : IsWord defaultMountPath := by decide
  have others :
      ∀ row ∈ textRows "Used Available Use% Mounted /data/x".toList,
        ¬IsCandidate defaultMountPath row := by
    unfold IsCandidate
    decide
  have opens : IsLineBreak ['\r', '\n'] := .pair
  have closes : IsLineBreak ['\u2028'] := .single (by decide)
  refine ⟨mounted, others, opens, closes, by decide, by decide, ?_⟩
  exact diskUsage_reads_back mounted others opens closes prefixedRow
    "tmpfs 4 2 1 50% /data".toList { free := 38, used := 52 } (by decide) (by decide)

end Report
end Headroom
