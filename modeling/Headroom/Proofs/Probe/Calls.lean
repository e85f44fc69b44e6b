import Headroom.Proofs.Probe.Protocol

/-!
# The calls of a check

A measurement creates its own claim and its own job and otherwise only reads; a
cleanup deletes these two and otherwise only reads.  Reading the storage class is no
part of either.
-/

namespace Headroom
namespace Probe

open Cluster Action

section Runs

variable {checker : Checker} {claim : Claim} {job : Job} {trace : List Exchange}

/-- Waiting for a job is reading its status and listing its pods. -/
theorem WaitRun.method_mem
    {namespaceName name : String}
    {outcome : Except Failure (Option String)}
    (run : WaitRun namespaceName name trace outcome) :
    ∀ exchange ∈ trace,
      exchange.call.method ∈ [Method.readJobStatus, .listPods, .readLog] := by
  have polled
      {polls : List Exchange}
      {ending : Except Failure Unit}
      (wait : PollRun (.readJobStatus namespaceName name) (success namespaceName name)
        (.jobTimeout name) polls ending) :
      ∀ exchange ∈ polls,
        exchange.call.method ∈ [Method.readJobStatus, .listPods, .readLog] := by
    intro exchange present
    rw [wait.call_eq present]
    exact List.mem_cons_self
  cases run with
  | unfinished wait => exact polled wait
  | unlisted wait failed => simpa [or_imp, forall_and] using polled wait
  | podless wait => simpa [or_imp, forall_and] using polled wait
  | listed wait => simpa [or_imp, forall_and] using polled wait

/-- A measurement creates its claim and its job, and whatever else it does is reading. -/
theorem MeasureRun.call_cases
    {basePath : Text}
    {outcome : Except Failure Sample}
    (run : MeasureRun checker claim job basePath trace outcome) :
    ∀ exchange ∈ trace,
      exchange.call = .createClaim checker.namespaceName claim ∨
        exchange.call = .createJob checker.namespaceName job ∨
          exchange.call.method ∈ [Method.readJobStatus, .listPods, .readLog] := by
  have waited
      {waits : List Exchange}
      {pod : Except Failure (Option String)}
      (wait : WaitRun checker.namespaceName job.name waits pod) :
      ∀ exchange ∈ waits,
        exchange.call = .createClaim checker.namespaceName claim ∨
          exchange.call = .createJob checker.namespaceName job ∨
            exchange.call.method ∈ [Method.readJobStatus, .listPods, .readLog] :=
    fun exchange present => .inr (.inr (wait.method_mem exchange present))
  cases run with
  | claimRefused failed => simp
  | jobRefused failed => simp [claimCreated]
  | podless wait => simpa [claimCreated, jobCreated] using waited wait
  | usageUnread wait failed =>
      simpa [claimCreated, jobCreated, or_imp, forall_and] using waited wait
  | mountsUnread wait failed =>
      simpa [claimCreated, jobCreated, logRead, or_imp, forall_and] using waited wait
  | reported wait =>
      simpa [claimCreated, jobCreated, logRead, or_imp, forall_and] using waited wait

/-- A measurement begins with the creation of its claim, whatever comes of that. -/
theorem MeasureRun.creates_claim
    {basePath : Text}
    {outcome : Except Failure Sample}
    (run : MeasureRun checker claim job basePath trace outcome) :
    ∃ exchange ∈ trace, exchange.call = .createClaim checker.namespaceName claim := by
  cases run <;> exact ⟨_, List.mem_cons_self, rfl⟩

/-- A claim is reclaimed by deleting it and by reading volumes. -/
theorem ReclaimRun.call_cases
    {reference : Reference}
    {outcome : Except Failure Unit}
    (run : ReclaimRun reference trace outcome) :
    ∀ exchange ∈ trace,
      exchange.call = .deleteClaim reference ∨
        exchange.call.method ∈ [Method.listVolumes, .readVolume] := by
  cases run with
  | unlisted failed => simp
  | kept failed => simp
  | unbound gone noVolume => simp
  | bound gone first wait =>
      intro exchange present
      rw [List.mem_cons, List.mem_cons] at present
      rcases present with rfl | rfl | polled
      · exact .inr (by simp)
      · exact .inl rfl
      · rw [wait.call_eq polled]
        exact .inr (by simp)

/-- A cleanup deletes its job and its claim, and whatever else it does is reading volumes. -/
theorem CleanupRun.call_cases
    {outcome : Except Failure Unit}
    (run : CleanupRun checker claim job trace outcome) :
    ∀ exchange ∈ trace,
      exchange.call = .deleteJob checker.namespaceName job.name ∨
        exchange.call = .deleteClaim claim.reference ∨
          exchange.call.method ∈ [Method.listVolumes, .readVolume] := by
  cases run with
  | jobKept failed => simp
  | jobGone gone rest =>
      intro exchange present
      rcases List.mem_cons.mp present with rfl | later
      · exact .inl rfl
      · exact .inr (rest.call_cases exchange later)

/-- A probe never reads the storage class. -/
theorem ProbeRun.method_ne_readStorageClass
    {node : String}
    {reserved : Reservation}
    {path : Text}
    {outcome : Except Failure Verdict}
    (run : ProbeRun checker node reserved path claim job trace outcome) :
    ∀ exchange ∈ trace, exchange.call.method ≠ .readStorageClass := by
  have notListed {kind : Method} {kinds : List Method} (listed : kind ∈ kinds)
      (unlisted : Method.readStorageClass ∉ kinds) : kind ≠ .readStorageClass := by
    rintro rfl
    exact unlisted listed
  cases run with
  | unread failed => simp
  | marked carried => simp
  | probed unmarked measurement cleanup =>
      intro exchange present
      rw [List.mem_cons, List.mem_append] at present
      rcases present with rfl | measured | cleaned
      · exact nofun
      · rcases measurement.call_cases exchange measured with call | call | method
        · rw [call]
          exact nofun
        · rw [call]
          exact nofun
        · exact notListed method (by decide)
      · rcases cleanup.call_cases exchange cleaned with call | call | method
        · rw [call]
          exact nofun
        · rw [call]
          exact nofun
        · exact notListed method (by decide)

end Runs
end Probe
end Headroom
