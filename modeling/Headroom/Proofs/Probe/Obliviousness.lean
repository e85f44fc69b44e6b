import Headroom.Proofs.Cluster.Likeness
import Headroom.Proofs.Probe.Approach

/-!
# Checks do not look at records

What has been recorded makes no difference to a check until its sample is judged.
This is shown here step by step, from waits and polls up to measurements and their
cleanups, along the way in which these are put together.
-/

namespace Headroom
namespace Probe

open Cluster Action

variable {α : Type}

section Polling

variable {ask : Action (Option α)} {late : Cause} {interval : Duration}

theorem oblivious_wait (interval : Duration) : Oblivious (wait interval) := by
  intro world records
  have blind : World.isCancelled { world with records } = world.isCancelled := rfl
  rw [run_wait, run_wait, blind]
  split
  · exact ⟨.went rfl, records, rfl⟩
  cases interval.waitable? with
  | none => exact ⟨.failed (.impasse .overlongPause), records, rfl⟩
  | some amount =>
      refine ⟨.went rfl, records, ?_⟩
      dsimp only [World.afterWait]
      cases world.cancellation.atTime with
      | none => rfl
      | some time =>
          dsimp only
          split <;> rfl

/-- Polls go by the clock and by what is answered. -/
theorem oblivious_poll
    (asks : Oblivious ask)
    (limit : Option Rat)
    (fuel : Nat) :
    Oblivious (poll ask late interval limit fuel) := by
  induction fuel with
  | zero => exact oblivious_throw (.impasse .endless)
  | succ fuel inductionHypothesis =>
      unfold poll
      refine (oblivious_observe fun _ _ => rfl).bind ?_
      intro cancelled
      split
      · exact oblivious_fail_bind
      refine asks.bind ?_
      intro answer
      cases answer with
      | some value => exact oblivious_pure value
      | none =>
          refine (oblivious_observe fun _ _ => rfl).bind ?_
          intro isLate
          split
          · exact oblivious_fail_bind
          refine (oblivious_wait interval).bind ?_
          intro cancelled
          split
          · exact oblivious_fail_bind
          · exact inductionHypothesis

/-- The deadline and the patience of a wait do not depend on records either. -/
theorem oblivious_pollFor
    (asks : Oblivious ask)
    (call : Call)
    (timeout : Duration) :
    Oblivious (pollFor call ask late interval timeout) := by
  refine oblivious_get_bind ?_
  intro world records
  exact oblivious_poll asks _ _ world records

end Polling

section Reclaiming

variable (reclaimer : Reclaimer)

theorem oblivious_askGone (volume : String) : Oblivious (Reclaimer.askGone volume) := by
  refine (oblivious_requestIfFound (.readVolume volume)).bind ?_
  rintro (_ | ⟨⟩)
  · exact (oblivious_note _ _).bind fun _ => oblivious_pure (some ())
  · exact oblivious_pure none

theorem oblivious_waitDeletion (volume : String) : Oblivious (reclaimer.waitDeletion volume) :=
  (oblivious_note _ _).bind fun _ => oblivious_pollFor (oblivious_askGone volume) _ _

theorem oblivious_deleteClaim (claim : Reference) : Oblivious (reclaimer.deleteClaim claim) := by
  refine ((oblivious_request .listVolumes).bind fun volumes => oblivious_pure _).bind ?_
  intro volume
  refine (oblivious_note _ _).bind fun _ => ?_
  refine ((oblivious_requestIfFound (.deleteClaim claim)).map _).bind fun _ => ?_
  cases volume with
  | none => exact oblivious_note _ _
  | some volume => exact oblivious_waitDeletion reclaimer volume.name

/-- Claims are dealt with one after the other, whatever has been recorded about the others. -/
theorem oblivious_deleteEach (claims : List Reference) :
    Oblivious (reclaimer.deleteEach claims) := by
  induction claims with
  | nil => exact oblivious_pure []
  | cons claim others inductionHypothesis =>
      unfold Reclaimer.deleteEach
      refine (oblivious_deleteClaim reclaimer claim).attempt_bind ?_
      intro outcome
      cases outcome with
      | ok value => exact inductionHypothesis
      | error failure =>
          cases failure with
          | foreign fault => exact oblivious_throw _
          | impasse reason => exact oblivious_throw _
          | check error earlier =>
              cases error with
              | cleanup causes => exact oblivious_throw _
              | single cause =>
                  dsimp only
                  split
                  · exact oblivious_throw_bind
                  · refine (oblivious_note _ _).bind fun _ => ?_
                    exact inductionHypothesis.bind fun causes => oblivious_pure (cause :: causes)

theorem oblivious_deleteClaims (claims : List Reference) :
    Oblivious (reclaimer.deleteClaims claims) := by
  refine (oblivious_deleteEach reclaimer claims).bind ?_
  intro causes
  match causes with
  | [] => exact oblivious_pure ()
  | [cause] => exact oblivious_fail cause
  | first :: second :: others => exact oblivious_throw _

end Reclaiming

section Checking

variable (checker : Checker)

theorem oblivious_askSucceeded (job : String) : Oblivious (checker.askSucceeded job) := by
  refine (oblivious_request (.readJobStatus checker.namespaceName job)).bind ?_
  rintro (_ | status)
  · exact oblivious_pure none
  · dsimp only
    split
    · exact oblivious_fail_bind
    · exact oblivious_pure _

theorem oblivious_waitJob (job : String) : Oblivious (checker.waitJob job) := by
  refine (oblivious_pollFor (oblivious_askSucceeded checker job) _ _).bind fun _ => ?_
  refine (oblivious_request (.listPods checker.namespaceName job)).bind ?_
  rintro (_ | ⟨pod, others⟩)
  · exact oblivious_fail _
  · exact oblivious_pure pod

theorem oblivious_measure
    (claim : Claim)
    (job : Job)
    (basePath : Text) :
    Oblivious (checker.measure claim job basePath) := by
  refine (oblivious_note _ _).bind fun _ => (oblivious_request _).bind fun _ => ?_
  refine (oblivious_note _ _).bind fun _ => (oblivious_request _).bind fun _ => ?_
  refine (oblivious_waitJob checker job.name).bind fun pod => ?_
  refine (oblivious_request _).bind fun usageReport => ?_
  refine (oblivious_request _).bind fun mountsReport => ?_
  refine (oblivious_note _ _).bind fun _ => (oblivious_note _ _).bind fun _ => ?_
  cases checker.sampleOfReports basePath usageReport mountsReport with
  | ok sample => exact oblivious_pure sample
  | error error => exact oblivious_throw _

theorem oblivious_cleanup
    (claim : Claim)
    (job : Job) :
    Oblivious (checker.cleanup claim job) := by
  refine (oblivious_note _ _).bind fun _ => ?_
  refine ((oblivious_requestIfFound _).map _).bind fun _ => ?_
  exact oblivious_deleteClaims checker.reclaimer _

theorem oblivious_basePath : Oblivious checker.basePath := by
  refine (oblivious_call (.readStorageClass checker.destinationClass)).bind ?_
  rintro (storageClass | ⟨status, reason⟩ | reason | text)
  · dsimp only
    cases StorageClass.basePath checker.limits (storageClass.annotations.getD []) with
    | ok path => exact oblivious_pure path
    | error error => exact oblivious_throw _
  · dsimp only
    split
    · exact oblivious_fail _
    · exact oblivious_fail _
  · exact oblivious_fail _
  · exact oblivious_throw _

theorem oblivious_approachUnder (node : String) (path : Text) :
    Oblivious (approachUnder checker node path) := by
  unfold approachUnder Checker.requireSchedulable
  refine (oblivious_request (.readNode node)).bind fun described => ?_
  cases Checker.unschedulableMarker? described with
  | some marker => exact oblivious_fail_bind
  | none =>
      rw [pure_bind]
      refine (oblivious_drawSuffix.bind fun _ => ?_).bind fun parts => oblivious_pure _
      exact oblivious_drawSuffix.bind fun _ => oblivious_pure _

/-- What has been recorded makes no difference to the approach to a measurement. -/
theorem oblivious_approach (node : String) (basePath : Option Text) :
    Oblivious (approach checker node basePath) := by
  cases basePath with
  | some path => exact oblivious_approachUnder checker node path
  | none =>
      exact (oblivious_basePath checker).bind fun path =>
        oblivious_approachUnder checker node path

end Checking
end Probe
end Headroom
