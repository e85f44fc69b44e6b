import Headroom.Proofs.Probe.Calls

/-!
# What a check leaves behind

A check that has made a claim always tries to delete its job.  It goes on to the
claim only if the job is gone then and the volumes could be listed; otherwise the
claim stays.

The claim is the only one that the run creates, and the calls of a measurement are
of other kinds than those of the removal.  So the removal can be read off the last
part of the run.
-/

namespace Headroom
namespace Cluster

/-- The methods that serve to remove what a check has made. -/
def Method.removes : Method → Bool
  | .listVolumes | .deleteClaim | .deleteJob => true
  | _ => false

end Cluster

namespace Probe

open Cluster Action

/-- A list of exchanges deletes a job, and it deletes a claim exactly if the job is gone and the
volumes were listed. -/
structure Removes
    (jobDeletion : Call)
    (claim : Reference)
    (trace : List Exchange) : Prop where
  deletes_job : ∃ exchange ∈ trace, exchange.call = jobDeletion
  deletes_claim_iff :
    (∃ exchange ∈ trace, exchange.call = .deleteClaim claim) ↔
      (∃ reply, ⟨jobDeletion, reply⟩ ∈ trace ∧ reply.IsGone) ∧
        ∃ volumes, ⟨.listVolumes, .answered volumes⟩ ∈ trace

/-- Exchanges of other kinds before it do not matter to a removal. -/
theorem Removes.append
    {namespaceName job : String}
    {claim : Reference}
    {trace more : List Exchange}
    (removes : Removes (.deleteJob namespaceName job) claim more)
    (other : ∀ exchange ∈ trace, exchange.call.method.removes = false) :
    Removes (.deleteJob namespaceName job) claim (trace ++ more) := by
  -- An exchange of the removal is one of the last part.
  have later :
      ∀ exchange : Exchange, exchange.call.method.removes = true →
        (exchange ∈ trace ++ more ↔ exchange ∈ more) := by
    intro exchange isRemoval
    rw [List.mem_append]
    refine ⟨?_, Or.inr⟩
    rintro (earlier | present)
    · rw [other exchange earlier] at isRemoval
      cases isRemoval
    · exact present
  obtain ⟨⟨deletion, present, isDeletion⟩, deletes_claim_iff⟩ := removes
  refine ⟨⟨deletion, List.mem_append_right trace present, isDeletion⟩, ?_⟩
  have claim_iff :
      (∃ exchange ∈ trace ++ more, exchange.call = .deleteClaim claim) ↔
        ∃ exchange ∈ more, exchange.call = .deleteClaim claim := by
    refine exists_congr fun exchange => and_congr_left fun isClaim => later exchange ?_
    rw [isClaim]
    rfl
  have job_iff (reply : Outcome Unit) :
      (⟨.deleteJob namespaceName job, reply⟩ : Exchange) ∈ trace ++ more ↔
        (⟨.deleteJob namespaceName job, reply⟩ : Exchange) ∈ more :=
    later _ rfl
  have volumes_iff (volumes : List Volume) :
      (⟨.listVolumes, .answered volumes⟩ : Exchange) ∈ trace ++ more ↔
        (⟨.listVolumes, .answered volumes⟩ : Exchange) ∈ more :=
    later _ rfl
  rw [claim_iff, deletes_claim_iff]
  simp only [job_iff, volumes_iff]

section Runs

variable {checker : Checker} {claim : Claim} {job : Job} {trace : List Exchange}

/-- A cleanup is a removal. -/
theorem CleanupRun.removes
    {outcome : Except Failure Unit}
    (run : CleanupRun checker claim job trace outcome) :
    Removes (.deleteJob checker.namespaceName job.name) claim.reference trace := by
  cases run with
  | jobKept failed =>
      have kept := not_isGone_of_requestedIfFound failed
      exact ⟨by simp, by simp [kept]⟩
  | jobGone gone rest =>
      refine ⟨by simp, ?_⟩
      cases rest with
      | @unlisted reply failure failed =>
          -- A list of volumes that was answered is no reason to fail.
          have unanswered : ∀ volumes, reply ≠ .answered volumes := by
            rintro volumes rfl
            cases failed
          simp [gone, eq_comm, unanswered]
      | kept failed => simp [gone]
      | unbound claimGone noVolume => simp [gone]
      | bound claimGone first wait => simp [gone]

/-- A probe that has created a claim created its own one, and removes it. -/
theorem ProbeRun.removes
    {node : String}
    {reserved : Reservation}
    {path : Text}
    {outcome : Except Failure Verdict}
    (run : ProbeRun checker node reserved path claim job trace outcome)
    {creation : Exchange}
    (present : creation ∈ trace)
    {namespaceName : String}
    {created : Claim}
    (creates : creation.call = .createClaim namespaceName created) :
    created = claim ∧
      Removes (.deleteJob checker.namespaceName job.name) claim.reference trace := by
  cases run with
  | unread failed =>
      rw [List.mem_singleton.mp present] at creates
      cases creates
  | marked carried =>
      rw [List.mem_singleton.mp present] at creates
      cases creates
  | @probed described first more sampled ending unmarked measurement cleanup =>
      have others :
          ∀ exchange ∈ ⟨.readNode node, .answered described⟩ :: first,
            exchange.call.method.removes = false := by
        rintro exchange (_ | ⟨_, measured⟩)
        · rfl
        · rcases measurement.call_cases exchange measured with call | call | method
          · rw [call]
            rfl
          · rw [call]
            rfl
          · revert method
            generalize exchange.call.method = kind
            cases kind <;> simp [Method.removes]
      refine ⟨?_, cleanup.removes.append others⟩
      rw [List.mem_cons, List.mem_append] at present
      rcases present with rfl | measured | cleaned
      · cases creates
      · rcases measurement.call_cases creation measured with call | call | method
        · rw [call] at creates
          cases creates
          rfl
        · rw [call] at creates
          cases creates
        · rw [creates] at method
          simp at method
      · rcases cleanup.call_cases creation cleaned with call | call | method
        · rw [call] at creates
          cases creates
        · rw [call] at creates
          cases creates
        · rw [creates] at method
          simp at method

end Runs

/-- A check that has created a claim deletes its job, and it deletes the claim exactly if the job
is gone then and the volumes can be listed. -/
theorem checkNode_deletes_claim_iff
    (checker : Checker)
    (node : String)
    (reserved : Reservation)
    (basePath : Option Text)
    {world after : World}
    {outcome : Except Failure Verdict}
    (ran : (checker.checkNode node reserved basePath).run world = (outcome, after))
    {trace : List Exchange}
    (grown : after.history = world.history ++ trace)
    {namespaceName : String}
    {claim : Claim}
    (created : ∃ exchange ∈ trace, exchange.call = .createClaim namespaceName claim) :
    Removes
      (.deleteJob checker.namespaceName (Name.probe node (world.suffixes (world.drawn + 1))))
      claim.reference trace := by
  obtain ⟨exchanges, follows, run⟩ := conforms_checkNode checker node reserved world basePath
  rw [ran] at follows run
  obtain rfl : trace = exchanges :=
    List.append_cancel_left (grown.symm.trans follows.history_eq)
  obtain ⟨creation, present, creates⟩ := created
  cases run with
  | given probe =>
      obtain ⟨rfl, removes⟩ := probe.removes present creates
      exact removes
  | unresolved failed =>
      rw [List.mem_singleton.mp present] at creates
      cases creates
  | @found reply path more _ went probe =>
      rcases List.mem_cons.mp present with rfl | later
      · cases creates
      · obtain ⟨rfl, removes⟩ := probe.removes later creates
        refine Removes.append removes (?_ : ∀ exchange ∈ [_], _)
        simp [Method.removes]

/-- A cluster in which nobody may create or delete jobs. -/
def joblessScript : Script :=
  { routes := fun
      | .createJob =>
        [{ argument := none, responses := [.immediate (.refused 403 (some "Forbidden"))] }]
      | .deleteJob =>
        [{ argument := none, responses := [.immediate (.refused 403 (some "Forbidden"))] }]
      | _ => [] }

/-- What becomes of a node in that cluster. -/
def joblessRun : Except Failure Verdict × World :=
  (plainChecker.checkNode "node" (.bytes 1) (some [slash])).run (.start joblessScript)

/-- The claim that is made there. -/
def joblessClaim : Claim :=
  nextClaim plainChecker "node" (.start joblessScript)

theorem checkNode_deletes_claim_iff_jobless :
    (∃ exchange ∈ joblessRun.2.history,
        exchange.call = .createClaim defaultNamespace joblessClaim) ∧
      Removes (.deleteJob defaultNamespace (Name.probe "node" (Name.suffix 1)))
        joblessClaim.reference joblessRun.2.history := by
  have created :
      ∃ exchange ∈ joblessRun.2.history,
        exchange.call = .createClaim defaultNamespace joblessClaim := by
    decide +kernel
  have ran :
      (plainChecker.checkNode "node" (.bytes 1) (some [slash])).run (.start joblessScript) =
        (joblessRun.1, joblessRun.2) := rfl
  have grown :
      joblessRun.2.history = (World.start joblessScript).history ++ joblessRun.2.history := by
    rw [World.history_start, List.nil_append]
  exact ⟨created,
    checkNode_deletes_claim_iff plainChecker "node" (.bytes 1) (some [slash]) ran grown created⟩

/-- A check that may not delete its job leaves its claim behind. -/
theorem checkNode_keeps_claim_jobless :
    .createClaim defaultNamespace joblessClaim ∈ joblessRun.2.calls ∧
      .deleteClaim joblessClaim.reference ∉ joblessRun.2.calls := by
  decide +kernel

end Probe
end Headroom
