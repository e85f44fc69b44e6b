import Headroom.Proofs.Probe.Soundness
import Headroom.Proofs.Report.DiskUsage
import Headroom.Proofs.Settings

/-!
# Mount paths from which usage can be read

Settings accept every absolute path as the one under which a probe mounts its volume.  A usage
table is cut into words, though, and its rows are told apart by their last word.  So a row
about the mount path is read back if the path holds no blank.

If it does hold a blank, no row of any table is about it.  Then every table is refused, and no
check of a node by a checker with that path ever ends with a verdict.
-/

namespace Headroom
namespace Report

/-- A row about a mount path, with single spaces between its columns. -/
def usageLine
    (device size share : List Char)
    (usage : DiskUsage)
    (mountPath : List Char) : List Char :=
  [' '].intercalate
    [device, size, Nat.toDigits 10 usage.used, Nat.toDigits 10 usage.free, share, mountPath]

/-- A mount path from whose rows usage is read back, unless its numbers are too long. -/
def IsReadable (mountPath : List Char) : Prop :=
  ∀ device size share, IsWord device → IsWord size → IsWord share →
    ∀ usage : DiskUsage,
      (Nat.toDigits 10 usage.free).length ≤ 4300 →
      (Nat.toDigits 10 usage.used).length ≤ 4300 →
      diskUsage mountPath (usageLine device size share usage mountPath) = .ok usage

section Paths

variable {mountPath : List Char}

/-- A single space is a gap between words. -/
theorem isGap_space : IsGap [' '] := by decide

/-- The row of a usage, as one of the rows that may be written. -/
def spacedRow
    {device size share : List Char}
    (deviceProper : IsWord device)
    (sizeProper : IsWord size)
    (shareProper : IsWord share) : UsageRow where
  lead := []
  front := [(device, [' ']), (size, [' '])]
  afterUsed := [' ']
  afterAvailable := [' ']
  share := share
  afterShare := [' ']
  trail := []
  lead_isPadding := by decide
  front_ne_nil := by simp
  front_proper := by simp [deviceProper, sizeProper, isGap_space]
  afterUsed_isGap := isGap_space
  afterAvailable_isGap := isGap_space
  share_isWord := shareProper
  afterShare_isGap := isGap_space
  trail_isPadding := by decide

/-- A mount path that is a word is one from whose rows usage is read back. -/
theorem isReadable_of_isWord (mounted : IsWord mountPath) : IsReadable mountPath := by
  intro device size share deviceProper sizeProper shareProper usage freeFits usedFits
  let row := spacedRow deviceProper sizeProper shareProper
  have usedCounts := isCount_toDigits usage.used
  have freeCounts := isCount_toDigits usage.free
  have line_eq :
      usageLine device size share usage mountPath =
        row.line (Nat.toDigits 10 usage.used) (Nat.toDigits 10 usage.free) mountPath := by
    simp [usageLine, row, spacedRow, UsageRow.line, UsageRow.fields, spread, List.intercalate]
  have divided :
      textRows (usageLine device size share usage mountPath) =
        [] ++ textRows (row.line (Nat.toDigits 10 usage.used) (Nat.toDigits 10 usage.free)
          mountPath) ++ [] := by
    rw [line_eq, List.nil_append, List.append_nil]
  have decides := row.decides_line (isWord_of_isCount usedCounts)
    (isWord_of_isCount freeCounts) mounted divided (by simp)
  rw [diskUsage_of_decides decides, byteCount_of_isCount freeCounts freeFits,
    byteCount_of_isCount usedCounts usedFits, naturalOfDigits_toDigits, naturalOfDigits_toDigits]
  rfl

/-- No row of any table is about a mount path that is no word, so every table is refused. -/
theorem diskUsage_of_not_isWord
    (unfit : ¬IsWord mountPath)
    (table : List Char) :
    diskUsage mountPath table = .error (.malformed .volumeNotListed) := by
  have noColumns : (textRows table).findSome? (usageColumns? mountPath) = none := by
    rw [List.findSome?_eq_none_iff]
    intro row listed
    apply usageColumns?_eq_none_iff.mpr
    rintro ⟨-, last⟩
    exact unfit (isWord_of_mem_textRows listed (List.mem_of_getLast? last))
  rw [diskUsage, noColumns]

/-- So usage is read from the rows about a mount path exactly if that is a word. -/
theorem isReadable_iff_isWord : IsReadable mountPath ↔ IsWord mountPath := by
  refine ⟨fun readable => ?_, isReadable_of_isWord⟩
  apply Classical.byContradiction
  intro unfit
  have short : (Nat.toDigits 10 0).length ≤ 4300 := by decide
  have read := readable ['-'] ['-'] ['-'] (by decide) (by decide) (by decide)
    { free := 0, used := 0 } short short
  rw [diskUsage_of_not_isWord unfit] at read
  cases read

/-- An absolute path is a word exactly if it holds no blank. -/
theorem isWord_iff_of_absolute (absolute : mountPath.head? = some '/') :
    IsWord mountPath ↔ ∀ char ∈ mountPath, isBlank char = false := by
  refine ⟨IsWord.plain, fun plain => ⟨?_, plain⟩⟩
  rintro rfl
  cases absolute

end Paths

end Report

namespace Probe

open Cluster Action

/-- Behind a verdict there is a usage report that could be read. -/
theorem exists_usage_of_verdict
    {checker : Checker}
    {node : String}
    {reserved : Reservation}
    {basePath : Option Text}
    {world : World}
    {verdict : Verdict}
    (returned : ((checker.checkNode node reserved basePath).run world).1 = .ok verdict) :
    ∃ (report : String) (usage : Report.DiskUsage),
      Report.diskUsage checker.mountPath.toList report.toList = .ok usage := by
  obtain ⟨trace, -, run⟩ := conforms_checkNode checker node reserved world basePath
  rw [returned] at run
  generalize ended : (.ok verdict : Except Failure Verdict) = outcome at run
  have of_probe {path claim job rest}
      (probe : ProbeRun checker node reserved path claim job rest outcome) :
      ∃ (report : String) (usage : Report.DiskUsage),
        Report.diskUsage checker.mountPath.toList report.toList = .ok usage := by
    subst ended
    have evidence : Nonempty (Evidence checker node reserved (some path) ([] ++ rest) verdict) :=
      probe.ends_with_verdict [] rfl
    obtain ⟨evidence⟩ := evidence
    exact ⟨evidence.usageReport, evidence.usage, evidence.usage_eq⟩
  cases run with
  | given probe => exact of_probe probe
  | unresolved failed => cases ended
  | found went probe => exact of_probe probe

end Probe

namespace Report

open Probe

/-- Usage is read back from the rows about an accepted mount path exactly if that holds no blank.
If it does, then every usage report is refused as one that does not list the volume, and no check
of a node by a checker with that mount path ends with a verdict. -/
theorem accepted_mountPath_isReadable_iff
    {sources : Sources}
    {settings : Settings}
    (accepted : Settings.ofSources sources = .ok settings) :
    (IsReadable settings.mountPath.toList ↔
        ∀ char ∈ settings.mountPath.toList, isBlank char = false) ∧
      ((∃ char ∈ settings.mountPath.toList, isBlank char = true) →
        (∀ content : Content,
            diskUsage settings.mountPath.toList content.chars =
              .error (.malformed .volumeNotListed)) ∧
          ∀ checker : Checker, checker.mountPath = settings.mountPath →
            ∀ node reserved basePath world verdict,
              ((checker.checkNode node reserved basePath).run world).1 ≠ .ok verdict) := by
  have absolute := (Settings.isSensible_of_ofSources accepted).mountPath
  refine ⟨isReadable_iff_isWord.trans (isWord_iff_of_absolute absolute), ?_⟩
  rintro ⟨char, present, blank⟩
  have unfit : ¬IsWord settings.mountPath.toList := by
    intro mounted
    rw [mounted.plain char present] at blank
    cases blank
  refine ⟨fun content => diskUsage_of_not_isWord unfit content.chars, ?_⟩
  intro checker same node reserved basePath world verdict returned
  obtain ⟨report, usage, read⟩ := exists_usage_of_verdict returned
  rw [same, diskUsage_of_not_isWord unfit] at read
  cases read

/-- Sources that mount the volume under a path with a space. -/
def spacedSources : Sources :=
  { arguments := []
    environment := [("PROBE_MOUNT_PATH", "/da ta"), ("SRC_STORAGE_CLASS", "source"),
      ("DST_STORAGE_CLASS", "destination")]
    file := none }

/-- The settings that they describe. -/
def spacedSettings : Settings :=
  { applicationName := "cluster-space-checker"
    probeImage := "busybox:1.36"
    sourceClass := some "source"
    destinationClass := some "destination"
    probeNamespace := "default"
    mountPath := "/da ta"
    pollInterval := .ofInt 2
    deletionTimeout := .ofInt 300
    jobTimeout := .ofInt 300
    clusterConfiguration := none
    atOnce := false }

theorem accepted_mountPath_isReadable_iff_spaced :
    Settings.ofSources spacedSources = .ok spacedSettings ∧
      (∃ char ∈ spacedSettings.mountPath.toList, isBlank char = true) ∧
      { plainChecker with mountPath := "/da ta" }.mountPath = spacedSettings.mountPath ∧
      ¬IsReadable spacedSettings.mountPath.toList ∧
      ∀ node reserved basePath world verdict,
        (({ plainChecker with mountPath := "/da ta" }.checkNode node reserved basePath).run
          world).1 ≠ .ok verdict := by
  have accepted : Settings.ofSources spacedSources = .ok spacedSettings := by decide +kernel
  have spaced : ∃ char ∈ spacedSettings.mountPath.toList, isBlank char = true :=
    ⟨' ', by decide, rfl⟩
  obtain ⟨readable_iff, refused⟩ := accepted_mountPath_isReadable_iff accepted
  refine ⟨accepted, spaced, rfl, ?_, (refused spaced).2 _ rfl⟩
  obtain ⟨char, present, blank⟩ := spaced
  intro readable
  rw [readable_iff.mp readable char present] at blank
  cases blank

/-- A usage under an accepted mount path with a space is not read back. -/
theorem usageLine_unread_spacedPath :
    Settings.ofSources spacedSources = .ok spacedSettings ∧
      usageLine "dev".toList "90".toList "58%".toList { free := 38, used := 52 }
          spacedSettings.mountPath.toList =
        "dev 90 52 38 58% /da ta".toList ∧
      diskUsage spacedSettings.mountPath.toList "dev 90 52 38 58% /da ta".toList =
        .error (.malformed .volumeNotListed) := by
  refine ⟨by decide +kernel, by decide, by decide⟩

end Report
end Headroom
