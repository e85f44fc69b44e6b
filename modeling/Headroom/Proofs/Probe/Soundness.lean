import Headroom.Proofs.Probe.Protocol

/-!
# What stands behind a verdict

A check ends with a verdict only if every step of it went well.  The evidence for a
verdict is the whole list of exchanges of the run: the node that was read, the two
creations, the polls of the job, the pod whose reports were read, the two deletions
and the polls of the volume.

The verdict is read off that evidence: its free bytes are those of the first report,
and they are compared with the reservation.
-/

namespace Headroom
namespace Probe

open Cluster Action

/-- The exchanges of a run that led to a verdict, and what they say. -/
structure Evidence
    (checker : Checker)
    (node : String)
    (reserved : Reservation)
    (basePath : Option Text)
    (trace : List Exchange)
    (verdict : Verdict) where
  /-- The exchange by which the base path was found out, if it was not given. -/
  resolution : List Exchange
  /-- The node as it was read. -/
  described : Node
  claim : Claim
  job : Job
  /-- What was said about the job before it had succeeded. -/
  earlierStatuses : List (Option JobStatus)
  /-- What was said about the job at last. -/
  lastStatus : JobStatus
  /-- The first pod that was listed. -/
  pod : Option String
  otherPods : List (Option String)
  usageReport : String
  mountsReport : String
  jobDeletion : Outcome Unit
  volumes : List Volume
  claimDeletion : Outcome Unit
  /-- The polls of the volume that was bound to the claim. -/
  volumePolls : List Exchange
  usage : Report.DiskUsage
  mountPoints : List (List Char)
  trace_eq :
    trace = resolution ++
      (⟨.readNode node, .answered described⟩ ::
        claimCreated checker claim :: jobCreated checker job ::
        (polls (.readJobStatus checker.namespaceName job.name)
            (earlierStatuses.map Outcome.answered) ++
          ⟨.readJobStatus checker.namespaceName job.name, .answered (some lastStatus)⟩ ::
          ⟨.listPods checker.namespaceName job.name, .answered (pod :: otherPods)⟩ ::
          logRead checker pod .usage usageReport :: logRead checker pod .mounts mountsReport ::
          ⟨.deleteJob checker.namespaceName job.name, jobDeletion⟩ ::
          ⟨.listVolumes, .answered volumes⟩ ::
          ⟨.deleteClaim claim.reference, claimDeletion⟩ :: volumePolls))
  resolution_calls :
    resolution.map (·.call) =
      if basePath.isSome then [] else [.readStorageClass checker.destinationClass]
  unmarked :
    ∀ marker ∈ Checker.unschedulableMarkers, Checker.carries described marker = false
  earlier_unfailed : ∀ counts, some counts ∈ earlierStatuses → counts.failed = 0
  last_unfailed : lastStatus.failed = 0
  last_succeeded : lastStatus.succeeded ≠ 0
  job_gone : jobDeletion.IsGone
  claim_gone : claimDeletion.IsGone
  /-- No volume is waited for if none was bound to the claim. -/
  unbound : volumes.find? (isBoundTo claim.reference) = none → volumePolls = []
  /-- The first volume that was bound to the claim is found to be gone at last. -/
  released :
    ∀ volume, volumes.find? (isBoundTo claim.reference) = some volume →
      ∃ count reason,
        volumePolls =
          polls (.readVolume volume.name) (List.replicate count (.answered ())) ++
            [⟨.readVolume volume.name, .refused notFound reason⟩]
  usage_eq : Report.diskUsage checker.mountPath.toList usageReport.toList = .ok usage
  mountPoints_eq : Report.mountPoints mountsReport.toList = .ok mountPoints
  node_eq : verdict.node = node
  free_eq : verdict.free = usage.free
  hasSpace_iff :
    verdict.hasSpace = true ↔
      verdict.free ≠ 0 ∧ ∃ amount, reserved = .bytes amount ∧ amount ≤ verdict.free

/-- An action and its aftermath settle to a value only if both went well. -/
theorem settle_eq_ok_iff
    {α : Type}
    {outcome : Except Failure α}
    {ending : Except Failure Unit}
    {value : α} :
    settle outcome ending = .ok value ↔ outcome = .ok value ∧ ending = .ok () := by
  cases outcome <;> cases ending <;> simp [settle]

/-- Polls after which a job is waited for further were answered, and told of no failure. -/
theorem answered_of_pending
    {namespaceName job : String}
    {replies : List (Outcome (Option JobStatus))}
    (pending : ∀ reply ∈ replies, success namespaceName job reply = .ok none) :
    ∃ statuses : List (Option JobStatus),
      replies = statuses.map Outcome.answered ∧
        ∀ counts, some counts ∈ statuses → counts.failed = 0 := by
  induction replies with
  | nil => exact ⟨[], rfl, by simp⟩
  | cons reply others inductionHypothesis =>
      obtain ⟨status, rfl, quiet⟩ := success_eq_none_iff.mp (pending reply (by simp))
      obtain ⟨statuses, rfl, unfailed⟩ :=
        inductionHypothesis fun other present => pending other (by simp [present])
      refine ⟨status :: statuses, rfl, ?_⟩
      rintro counts (_ | ⟨_, present⟩)
      · exact (quiet counts rfl).1
      · exact unfailed counts present

/-- A wait for a job that finds a pod saw the job succeed, and fail at no time. -/
theorem WaitRun.ends_with_pod
    {namespaceName job : String}
    {trace : List Exchange}
    {pod : Option String}
    (run : WaitRun namespaceName job trace (.ok pod)) :
    ∃ (earlier : List (Option JobStatus)) (last : JobStatus) (others : List (Option String)),
      trace =
          polls (.readJobStatus namespaceName job) (earlier.map Outcome.answered) ++
            [⟨.readJobStatus namespaceName job, .answered (some last)⟩,
              ⟨.listPods namespaceName job, .answered (pod :: others)⟩] ∧
        (∀ counts, some counts ∈ earlier → counts.failed = 0) ∧
          last.failed = 0 ∧ last.succeeded ≠ 0 := by
  cases run with
  | @listed _ _ others wait =>
      obtain ⟨replies, reply, rfl, unfinished, wanted⟩ := wait.ends_with_value rfl
      obtain ⟨last, rfl, unfailed, succeeded⟩ := success_eq_some_iff.mp wanted
      obtain ⟨earlier, rfl, quiet⟩ := answered_of_pending unfinished
      exact ⟨earlier, last, others, by simp, quiet, unfailed, succeeded⟩

/-- A measurement that ends with a sample read both reports of the first pod. -/
theorem MeasureRun.ends_with_sample
    {checker : Checker}
    {claim : Claim}
    {job : Job}
    {basePath : Text}
    {trace : List Exchange}
    {sample : Sample}
    (run : MeasureRun checker claim job basePath trace (.ok sample)) :
    ∃ (waits : List Exchange) (pod : Option String) (usageReport mountsReport : String),
      WaitRun checker.namespaceName job.name waits (.ok pod) ∧
        trace = claimCreated checker claim :: jobCreated checker job ::
          (waits ++ [logRead checker pod .usage usageReport,
            logRead checker pod .mounts mountsReport]) ∧
        checker.sampleOfReports basePath usageReport mountsReport = .ok sample := by
  generalize ended : (.ok sample : Except Failure Sample) = outcome at run
  cases run with
  | @reported waits pod usageReport mountsReport wait =>
      refine ⟨waits, pod, usageReport, mountsReport, wait, rfl, ?_⟩
      cases read : checker.sampleOfReports basePath usageReport mountsReport with
      | ok other =>
          rw [read] at ended
          cases ended
          rfl
      | error error =>
          rw [read] at ended
          cases ended
  | _ => cases ended

/-- A sample holds the free bytes of the first report, and the second report was read as well. -/
theorem reports_of_sample
    {checker : Checker}
    {basePath : Text}
    {usageReport mountsReport : String}
    {sample : Sample}
    (read : checker.sampleOfReports basePath usageReport mountsReport = .ok sample) :
    ∃ usage mountPoints,
      Report.diskUsage checker.mountPath.toList usageReport.toList = .ok usage ∧
        Report.mountPoints mountsReport.toList = .ok mountPoints ∧
          sample.free = usage.free := by
  unfold Checker.sampleOfReports at read
  cases usageRead : Report.diskUsage checker.mountPath.toList usageReport.toList with
  | error error =>
      rw [usageRead] at read
      cases read
  | ok usage =>
      cases mountsRead : Report.mountPoints mountsReport.toList with
      | error error =>
          rw [usageRead, mountsRead] at read
          cases read
      | ok mountPoints =>
          rw [usageRead, mountsRead] at read
          cases read
          exact ⟨usage, mountPoints, rfl, rfl, rfl⟩

/-- A claim that was reclaimed is gone, and so is the first volume that was bound to it. -/
theorem ReclaimRun.ends_well
    {claim : Reference}
    {trace : List Exchange}
    (run : ReclaimRun claim trace (.ok ())) :
    ∃ (volumes : List Volume) (reply : Outcome Unit) (more : List Exchange),
      trace = ⟨.listVolumes, .answered volumes⟩ :: ⟨.deleteClaim claim, reply⟩ :: more ∧
        reply.IsGone ∧
        (volumes.find? (isBoundTo claim) = none → more = []) ∧
        ∀ volume, volumes.find? (isBoundTo claim) = some volume →
          ∃ count reason,
            more =
              polls (.readVolume volume.name) (List.replicate count (.answered ())) ++
                [⟨.readVolume volume.name, .refused notFound reason⟩] := by
  cases run with
  | @unbound volumes reply gone noVolume =>
      refine ⟨volumes, reply, [], rfl, gone, fun _ => rfl, ?_⟩
      intro volume found
      rw [noVolume] at found
      cases found
  | @bound volumes reply volume more _ gone first wait =>
      obtain ⟨replies, reply, rfl, unfinished, wanted⟩ := wait.ends_with_value rfl
      obtain ⟨reason, rfl⟩ := absence_eq_some_iff.mp wanted
      have present : replies = List.replicate replies.length (.answered ()) :=
        List.eq_replicate_of_mem fun earlier listed =>
          absence_eq_none_iff.mp (unfinished earlier listed)
      refine ⟨volumes, _, _, rfl, gone, ?_, ?_⟩
      · intro noVolume
        rw [first] at noVolume
        cases noVolume
      · intro other found
        rw [first] at found
        cases found
        exact ⟨replies.length, reason, by rw [← present]⟩

/-- A verdict compares the free bytes of its sample with the reservation. -/
theorem judged_eq_ok
    {node : String}
    {reserved : Reservation}
    {sample : Sample}
    {verdict : Verdict}
    (ended : judged node reserved sample = .ok verdict) :
    verdict.node = node ∧ verdict.free = sample.free ∧
      (verdict.hasSpace = true ↔
        verdict.free ≠ 0 ∧ ∃ amount, reserved = .bytes amount ∧ amount ≤ verdict.free) := by
  unfold judged at ended
  cases reserved with
  | bytes amount =>
      cases ended
      refine ⟨rfl, rfl, ?_⟩
      rw [Sample.covers_iff]
      simp
  | unstated =>
      by_cases empty : sample.free = 0
      · simp only [Sample.covers?, empty, if_true] at ended
        cases ended
        simp [empty]
      · simp only [Sample.covers?, empty, if_false] at ended
        cases ended

/-- A probe that ends with a verdict leaves the evidence for it. -/
theorem ProbeRun.ends_with_verdict
    {checker : Checker}
    {node : String}
    {reserved : Reservation}
    {path : Text}
    {claim : Claim}
    {job : Job}
    {trace : List Exchange}
    {verdict : Verdict}
    (run : ProbeRun checker node reserved path claim job trace (.ok verdict))
    {basePath : Option Text}
    (resolution : List Exchange)
    (resolution_calls : resolution.map (·.call) =
      if basePath.isSome then [] else [.readStorageClass checker.destinationClass]) :
    Nonempty (Evidence checker node reserved basePath (resolution ++ trace) verdict) := by
  generalize ended : (.ok verdict : Except Failure Verdict) = outcome at run
  cases run with
  | unread failed => cases ended
  | marked carried => cases ended
  | @probed described first more sampled ending unmarked measurement cleanup =>
      -- Both the measurement and the cleanup went well, and the sample was judged.
      cases settled : settle sampled ending with
      | error failure =>
          rw [settled] at ended
          cases ended
      | ok sample =>
          rw [settled] at ended
          obtain ⟨rfl, rfl⟩ := settle_eq_ok_iff.mp settled
          obtain ⟨node_eq, free_eq, hasSpace_iff⟩ := judged_eq_ok ended.symm
          obtain ⟨waits, pod, usageReport, mountsReport, wait, rfl, read⟩ :=
            measurement.ends_with_sample
          obtain ⟨earlier, last, otherPods, rfl, quiet, unfailed, succeeded⟩ :=
            wait.ends_with_pod
          obtain ⟨usage, mountPoints, usageRead, mountsRead, sample_free⟩ := reports_of_sample read
          cases cleanup with
          | @jobGone jobDeletion reclaims _ jobGone rest =>
              obtain ⟨volumes, claimDeletion, volumePolls, rfl, claimGone, unbound, released⟩ :=
                rest.ends_well
              exact ⟨{
                resolution, described, claim, job, pod, otherPods, usageReport, mountsReport
                jobDeletion, volumes, claimDeletion, volumePolls, usage, mountPoints
                earlierStatuses := earlier
                lastStatus := last
                trace_eq := by simp
                resolution_calls
                unmarked := by simpa [Checker.unschedulableMarker?] using unmarked
                earlier_unfailed := quiet
                last_unfailed := unfailed
                last_succeeded := succeeded
                job_gone := jobGone
                claim_gone := claimGone
                unbound, released
                usage_eq := usageRead
                mountPoints_eq := mountsRead
                node_eq
                free_eq := by rw [free_eq, sample_free]
                hasSpace_iff }⟩

/-- A check returns a verdict only if the exchanges of its run are evidence for it. -/
theorem checkNode_verdict_supported
    (checker : Checker)
    (node : String)
    (reserved : Reservation)
    (basePath : Option Text)
    {world after : World}
    {verdict : Verdict}
    (returned : (checker.checkNode node reserved basePath).run world = (.ok verdict, after)) :
    ∃ trace, after.history = world.history ++ trace ∧
      Nonempty (Evidence checker node reserved basePath trace verdict) := by
  obtain ⟨trace, follows, run⟩ := conforms_checkNode checker node reserved world basePath
  rw [returned] at follows run
  refine ⟨trace, follows.history_eq, ?_⟩
  generalize ended : (.ok verdict : Except Failure Verdict) = outcome at run
  cases run with
  | given probe =>
      subst ended
      exact probe.ends_with_verdict [] rfl
  | unresolved failed => cases ended
  | @found reply path rest _ went probe =>
      subst ended
      exact probe.ends_with_verdict [⟨.readStorageClass checker.destinationClass, reply⟩] rfl

theorem checkNode_verdict_supported_roomy :
    ∃ after,
      (plainChecker.checkNode "node" (.bytes 1) (some [slash])).run (.start roomyScript) =
          (.ok { node := "node", free := 38, hasSpace := true }, after) ∧
        ∃ trace, after.history = (World.start roomyScript).history ++ trace ∧
          Nonempty (Evidence plainChecker "node" (.bytes 1) (some [slash]) trace
            { node := "node", free := 38, hasSpace := true }) := by
  have ended :
      ((plainChecker.checkNode "node" (.bytes 1) (some [slash])).run
        (.start roomyScript)).1 = .ok { node := "node", free := 38, hasSpace := true } := by
    decide +kernel
  refine ⟨_, Prod.ext ended rfl, ?_⟩
  exact checkNode_verdict_supported plainChecker "node" (.bytes 1) (some [slash])
    (Prod.ext ended rfl)

end Probe
end Headroom
