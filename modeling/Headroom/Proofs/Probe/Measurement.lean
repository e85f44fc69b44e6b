import Headroom.Probe.Measurement
import Headroom.Proofs.Probe.Reclamation

/-!
# Runs that measure a node

A measurement creates a claim and a job, waits until the job has succeeded, takes
the first pod of the job and reads its two reports.  It goes no further than the
first step that fails.

A cleanup deletes the job and reclaims the claim; it does not touch the claim when
the job may still be there.
-/

namespace Headroom

/-- A claim as calls refer to it. -/
def Claim.reference (claim : Claim) : Cluster.Reference :=
  { name := some claim.name, namespaceName := some claim.namespaceName }

namespace Probe

open Cluster Action

/-- What the status of a job means to somebody who waits until it has succeeded. -/
def success (namespaceName job : String) : Meaning Unit (.readJobStatus namespaceName job) :=
  fun reply =>
    match requested (.readJobStatus namespaceName job) reply with
    | .ok none => .ok none
    | .ok (some status) =>
      if status.failed ≠ 0 then .error (.of (.jobFailed job))
      else if status.succeeded ≠ 0 then .ok (some ()) else .ok none
    | .error failure => .error failure

section Success

variable
  {namespaceName job : String}
  {reply : Outcome (Call.readJobStatus namespaceName job).Reply}

/-- A job is waited for further exactly while its status tells of neither success nor failure. -/
theorem success_eq_none_iff :
    success namespaceName job reply = .ok none ↔
      ∃ status : Option JobStatus,
        reply = .answered status ∧
          ∀ counts ∈ status, counts.failed = 0 ∧ counts.succeeded = 0 := by
  cases reply with
  | answered status =>
      cases status with
      | none => simp [success, requested]
      | some counts =>
          by_cases failed : counts.failed = 0 <;>
            by_cases succeeded : counts.succeeded = 0 <;>
              simp [success, requested, failed, succeeded]
  | _ => simp [success, requested]

/-- A job has succeeded exactly when its status tells of success and of no failure. -/
theorem success_eq_some_iff :
    success namespaceName job reply = .ok (some ()) ↔
      ∃ counts : JobStatus,
        reply = .answered (some counts) ∧ counts.failed = 0 ∧ counts.succeeded ≠ 0 := by
  cases reply with
  | answered status =>
      cases status with
      | none => simp [success, requested]
      | some counts =>
          by_cases failed : counts.failed = 0 <;>
            by_cases succeeded : counts.succeeded = 0 <;>
              simp [success, requested, failed, succeeded]
  | _ => simp [success, requested]

/-- Reading the status of a job fails as any request does, and if the job has failed. -/
theorem success_error_cases
    {failure : Failure}
    (broken : success namespaceName job reply = .error failure) :
    failure = .of (.jobFailed job) ∨
      (∃ reason, failure = .of (.requestFailed (.readJobStatus namespaceName job) reason)) ∨
        ∃ text, failure = .foreign (.crashed text) := by
  unfold success at broken
  split at broken
  · cases broken
  · split at broken
    · cases broken
      exact .inl rfl
    · split at broken <;> cases broken
  · rename_i other failed
    cases broken
    exact .inr (requested_error_cases failed)

end Success

/-- Asking whether a job has succeeded is reading its status. -/
theorem asks_askSucceeded (checker : Checker) (job : String) :
    Asks (checker.askSucceeded job) (.readJobStatus checker.namespaceName job)
      (success checker.namespaceName job) := by
  intro world
  unfold Checker.askSucceeded
  refine conforms_request_bind ?_ ?_
  · rintro reply failure failed
    exact ⟨reply, rfl, by simp [success, failed]⟩
  · rintro (_ | status)
    · exact conforms_pure ⟨_, rfl, rfl⟩
    · dsimp only
      split
      · rename_i failed
        exact conforms_fail_bind ⟨_, rfl, by simp [success, requested, failed]⟩
      · rename_i unfailed
        refine conforms_pure ⟨_, rfl, ?_⟩
        by_cases succeeded : status.succeeded = 0 <;>
          simp [success, requested, unfailed, succeeded]

/-- The exchanges by which a job is waited for, and the pod that is found or what prevents it. -/
inductive WaitRun
    (namespaceName job : String) :
    List Exchange → Except Failure (Option String) → Prop
  | unfinished
      {trace : List Exchange}
      {failure : Failure}
      (wait : PollRun (.readJobStatus namespaceName job) (success namespaceName job)
        (.jobTimeout job) trace (.error failure)) :
      WaitRun namespaceName job trace (.error failure)
  | unlisted
      {trace : List Exchange}
      {reply : Outcome (List (Option String))}
      {failure : Failure}
      (wait : PollRun (.readJobStatus namespaceName job) (success namespaceName job)
        (.jobTimeout job) trace (.ok ()))
      (failed : requested (.listPods namespaceName job) reply = .error failure) :
      WaitRun namespaceName job (trace ++ [⟨.listPods namespaceName job, reply⟩])
        (.error failure)
  | podless
      {trace : List Exchange}
      (wait : PollRun (.readJobStatus namespaceName job) (success namespaceName job)
        (.jobTimeout job) trace (.ok ())) :
      WaitRun namespaceName job (trace ++ [⟨.listPods namespaceName job, .answered []⟩])
        (.error (.of (.podMissing job)))
  | listed
      {trace : List Exchange}
      {pod : Option String}
      {others : List (Option String)}
      (wait : PollRun (.readJobStatus namespaceName job) (success namespaceName job)
        (.jobTimeout job) trace (.ok ())) :
      WaitRun namespaceName job
        (trace ++ [⟨.listPods namespaceName job, .answered (pod :: others)⟩]) (.ok pod)

theorem conforms_waitJob
    (checker : Checker)
    (job : String)
    (world : World) :
    Conforms (checker.waitJob job) world (WaitRun checker.namespaceName job) := by
  unfold Checker.waitJob
  refine (conforms_pollFor (asks_askSucceeded checker job) _ world).bind ?_ ?_
  · rintro trace failure wait
    exact .unfinished wait
  · rintro trace ⟨⟩ after - wait
    refine conforms_request_bind (fun reply failure failed => .unlisted wait failed) ?_
    rintro (_ | ⟨pod, others⟩)
    · exact conforms_fail (.podless wait)
    · exact conforms_pure (.listed wait)

/-- The creation of a claim went well. -/
def claimCreated (checker : Checker) (claim : Claim) : Exchange :=
  ⟨.createClaim checker.namespaceName claim, .answered ()⟩

/-- The creation of a job went well. -/
def jobCreated (checker : Checker) (job : Job) : Exchange :=
  ⟨.createJob checker.namespaceName job, .answered ()⟩

/-- The log of a container of a pod was read. -/
def logRead
    (checker : Checker)
    (pod : Option String)
    (container : Container)
    (report : String) : Exchange :=
  ⟨.readLog checker.namespaceName pod container.name, .answered report⟩

/-- The exchanges of a measurement and its end. -/
inductive MeasureRun
    (checker : Checker)
    (claim : Claim)
    (job : Job)
    (basePath : Text) :
    List Exchange → Except Failure Sample → Prop
  | claimRefused
      {reply : Outcome Unit}
      {failure : Failure}
      (failed : requested (.createClaim checker.namespaceName claim) reply = .error failure) :
      MeasureRun checker claim job basePath
        [⟨.createClaim checker.namespaceName claim, reply⟩] (.error failure)
  | jobRefused
      {reply : Outcome Unit}
      {failure : Failure}
      (failed : requested (.createJob checker.namespaceName job) reply = .error failure) :
      MeasureRun checker claim job basePath
        [claimCreated checker claim, ⟨.createJob checker.namespaceName job, reply⟩]
        (.error failure)
  | podless
      {trace : List Exchange}
      {failure : Failure}
      (wait : WaitRun checker.namespaceName job.name trace (.error failure)) :
      MeasureRun checker claim job basePath
        (claimCreated checker claim :: jobCreated checker job :: trace) (.error failure)
  | usageUnread
      {trace : List Exchange}
      {pod : Option String}
      {reply : Outcome String}
      {failure : Failure}
      (wait : WaitRun checker.namespaceName job.name trace (.ok pod))
      (failed : requested (.readLog checker.namespaceName pod Container.usage.name) reply =
        .error failure) :
      MeasureRun checker claim job basePath
        (claimCreated checker claim :: jobCreated checker job ::
          (trace ++ [⟨.readLog checker.namespaceName pod Container.usage.name, reply⟩]))
        (.error failure)
  | mountsUnread
      {trace : List Exchange}
      {pod : Option String}
      {usageReport : String}
      {reply : Outcome String}
      {failure : Failure}
      (wait : WaitRun checker.namespaceName job.name trace (.ok pod))
      (failed : requested (.readLog checker.namespaceName pod Container.mounts.name) reply =
        .error failure) :
      MeasureRun checker claim job basePath
        (claimCreated checker claim :: jobCreated checker job ::
          (trace ++ [logRead checker pod .usage usageReport,
            ⟨.readLog checker.namespaceName pod Container.mounts.name, reply⟩]))
        (.error failure)
  | reported
      {trace : List Exchange}
      {pod : Option String}
      {usageReport mountsReport : String}
      (wait : WaitRun checker.namespaceName job.name trace (.ok pod)) :
      MeasureRun checker claim job basePath
        (claimCreated checker claim :: jobCreated checker job ::
          (trace ++ [logRead checker pod .usage usageReport,
            logRead checker pod .mounts mountsReport]))
        ((checker.sampleOfReports basePath usageReport mountsReport).mapError Failure.ofReport)

theorem conforms_measure
    (checker : Checker)
    (claim : Claim)
    (job : Job)
    (basePath : Text)
    (world : World) :
    Conforms (checker.measure claim job basePath) world
      (MeasureRun checker claim job basePath) := by
  unfold Checker.measure Checker.podLog
  refine conforms_note_bind fun noted => ?_
  refine conforms_request_bind (fun reply failure failed => .claimRefused failed) ?_
  intro claimCreated
  refine conforms_note_bind fun notedAgain => ?_
  refine conforms_request_bind (fun reply failure failed => .jobRefused failed) ?_
  intro jobCreated
  refine (conforms_waitJob checker job.name _).bind ?_ ?_
  · rintro trace failure wait
    exact .podless wait
  rintro trace pod after - wait
  refine conforms_request_bind (fun reply failure failed => .usageUnread wait failed) ?_
  intro usageReport
  refine conforms_request_bind (fun reply failure failed => .mountsUnread wait failed) ?_
  intro mountsReport
  refine conforms_note_bind fun usageNoted => conforms_note_bind fun mountsNoted => ?_
  have run := @MeasureRun.reported checker claim job basePath _ _ usageReport mountsReport wait
  cases read : checker.sampleOfReports basePath usageReport mountsReport with
  | ok sample =>
      rw [read] at run
      exact conforms_pure run
  | error error =>
      rw [read] at run
      exact conforms_throw run

/-- The exchanges of a cleanup and its end. -/
inductive CleanupRun
    (checker : Checker)
    (claim : Claim)
    (job : Job) :
    List Exchange → Except Failure Unit → Prop
  | jobKept
      {reply : Outcome Unit}
      {failure : Failure}
      (failed : requestedIfFound (.deleteJob checker.namespaceName job.name) reply =
        .error failure) :
      CleanupRun checker claim job
        [⟨.deleteJob checker.namespaceName job.name, reply⟩] (.error failure)
  | jobGone
      {reply : Outcome Unit}
      {trace : List Exchange}
      {outcome : Except Failure Unit}
      (gone : reply.IsGone)
      (rest : ReclaimRun claim.reference trace outcome) :
      CleanupRun checker claim job
        (⟨.deleteJob checker.namespaceName job.name, reply⟩ :: trace) outcome

theorem conforms_cleanup
    (checker : Checker)
    (claim : Claim)
    (job : Job)
    (world : World) :
    Conforms (checker.cleanup claim job) world (CleanupRun checker claim job) := by
  unfold Checker.cleanup
  refine conforms_note_bind fun noted => ?_
  refine conforms_discard_bind (fun reply failure failed => .jobKept failed) ?_
  intro reply gone after
  refine (conforms_deleteClaims checker.reclaimer [claim.reference] after).mono ?_
  rintro trace outcome ⟨collected, run, rfl⟩
  exact .jobGone gone (.of_eachRun run)

end Probe
end Headroom
