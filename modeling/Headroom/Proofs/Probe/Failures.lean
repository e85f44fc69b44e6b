import Headroom.Proofs.Probe.Approach
import Headroom.Proofs.Probe.Removal
import Headroom.Proofs.Probe.Termination

/-!
# What becomes of failures

When a measurement fails, its failure is the one of the check; if the cleanup fails
too, the failure of the measurement stays in the chain of the later one.  So every
call that there is to complain about is found in the chain of the failure in which
the check ends.

Only a cleanup whose waits run into an impasse keeps a failure from being seen: bounded
waits are over some time, and nobody has to wait for longer than they can.
-/

namespace Headroom
namespace Probe

open Cluster Action

section Settling

variable {α : Type} {error : CheckError} {earlier : List CheckError}

/-- A failure goes on after an aftermath as it is if that went well.  Otherwise it stays in the
chain of the later failure, unless the aftermath runs into an impasse. -/
inductive Carried
    (error : CheckError)
    (earlier : List CheckError) :
    Except Failure Unit → Failure → Prop
  | unchanged : Carried error earlier (.ok ()) (.check error earlier)
  | inWake
      {later : CheckError}
      {others : List CheckError} :
      Carried error earlier (.error (.check later others))
        (.check later (others ++ error :: earlier))
  | impasse (reason : Impasse) :
      Carried error earlier (.error (.impasse reason)) (.impasse reason)

/-- A failure that is carried on is found in the chain of failures. -/
theorem Carried.mem_chain
    {ending : Except Failure Unit}
    {failure : Failure}
    (carried : Carried error earlier ending failure) :
    error ∈ failure.chain ∨ ∃ reason, failure = .impasse reason := by
  cases carried with
  | unchanged => exact .inl (by simp [Failure.chain])
  | inWake => exact .inl (by simp [Failure.chain])
  | impasse reason => exact .inr ⟨reason, rfl⟩

/-- An action that fails is settled by carrying its failure on, if its aftermath has no fault. -/
theorem carried_settle
    {ending : Except Failure Unit}
    (faultless : ∀ fault, ending ≠ .error (.foreign fault)) :
    ∃ failure, settle (.error (.check error earlier) : Except Failure α) ending = .error failure ∧
      Carried error earlier ending failure := by
  match ending with
  | .ok () => exact ⟨_, rfl, .unchanged⟩
  | .error (.check later others) => exact ⟨_, rfl, .inWake⟩
  | .error (.impasse reason) => exact ⟨_, rfl, .impasse reason⟩
  | .error (.foreign fault) => exact (faultless fault rfl).elim

/-- The cause for which an aftermath fails is that of the whole, whatever came before. -/
theorem settle_of_later
    (outcome : Except Failure α)
    (cause : Cause) :
    ∃ failure, settle outcome (.error (.of cause)) = .error failure ∧
      .single cause ∈ failure.chain := by
  cases outcome with
  | ok value => exact ⟨_, rfl, by simp⟩
  | error failure => exact ⟨_, rfl, by simp [Failure.of]⟩

end Settling

section Checks

variable
  {checker : Checker}
  {node : String}
  {basePath : Option Text}
  {world begun : World}
  {path : Text}
  {claim : Claim}
  {job : Job}

/-- A cleanup has no fault in an orderly cluster. -/
theorem cleanup_ne_foreign
    (checker : Checker)
    (claim : Claim)
    (job : Job)
    (orderly : world.script.NeverCrashes)
    (fault : Foreign) :
    ((checker.cleanup claim job).run world).1 ≠ .error (.foreign fault) := by
  intro ended
  obtain ⟨trace, follows, cleanup⟩ := conforms_cleanup checker claim job world
  rw [ended] at cleanup
  obtain ⟨exchange, present, crashes⟩ := cleanup.crashes_of_foreign
  rw [follows.crashes_eq orderly present] at crashes
  cases crashes

/-- The failure of a measurement is carried on by the check. -/
theorem checkNode_carries
    {measured : World}
    {error : CheckError}
    {earlier : List CheckError}
    (reserved : Reservation)
    (approached : (approach checker node basePath).run world = (.ok (path, claim, job), begun))
    (orderly : begun.script.NeverCrashes)
    (failed :
      (checker.measure claim job path).run begun = (.error (.check error earlier), measured)) :
    ∃ failure, ((checker.checkNode node reserved basePath).run world).1 = .error failure ∧
      Carried error earlier ((checker.cleanup claim job).run measured).1 failure := by
  obtain ⟨trace, measuring, -⟩ := conforms_measure checker claim job path begun
  rw [failed] at measuring
  have stillOrderly : measured.script.NeverCrashes := by rwa [measuring.script_eq]
  obtain ⟨failure, settled, carried⟩ :=
    carried_settle (cleanup_ne_foreign checker claim job stillOrderly)
  refine ⟨failure, ?_, carried⟩
  rw [run_checkNode_of_approach reserved approached, failed]
  dsimp only
  rw [settled]

/-- The cause for which a cleanup fails is in the chain of the failure of the check. -/
theorem checkNode_reports_cleanup
    {cause : Cause}
    (reserved : Reservation)
    (approached : (approach checker node basePath).run world = (.ok (path, claim, job), begun))
    (failed :
      ((checker.cleanup claim job).run ((checker.measure claim job path).run begun).2).1 =
        .error (.of cause)) :
    ∃ failure, ((checker.checkNode node reserved basePath).run world).1 = .error failure ∧
      .single cause ∈ failure.chain := by
  obtain ⟨failure, settled, listed⟩ :=
    settle_of_later ((checker.measure claim job path).run begun).1 cause
  refine ⟨failure, ?_, listed⟩
  rw [run_checkNode_of_approach reserved approached]
  dsimp only
  rw [failed, settled]

/-- Every complaint about an exchange of a check that was ready to measure is in the chain of its
failure, unless the check runs into an impasse. -/
theorem checkNode_reports
    {opening trace : List Exchange}
    (reserved : Reservation)
    (approached : (approach checker node basePath).run world = (.ok (path, claim, job), begun))
    (opened : Follows world opening begun)
    (quiet : ∀ exchange ∈ opening, exchange.complaint? = none)
    (orderly : begun.script.NeverCrashes)
    (grown :
      ((checker.checkNode node reserved basePath).run world).2.history = world.history ++ trace)
    {exchange : Exchange}
    (present : exchange ∈ trace)
    {cause : Cause}
    (complained : exchange.complaint? = some cause) :
    ∃ failure, ((checker.checkNode node reserved basePath).run world).1 = .error failure ∧
      (.single cause ∈ failure.chain ∨ ∃ reason, failure = .impasse reason) := by
  obtain ⟨first, measuring, measurement⟩ := conforms_measure checker claim job path begun
  obtain ⟨more, cleaning, cleanup⟩ := conforms_cleanup checker claim job
    ((checker.measure claim job path).run begun).2
  rw [history_checkNode_of_approach reserved approached, cleaning.history_eq,
    measuring.history_eq, opened.history_eq, List.append_assoc, List.append_assoc,
    List.append_cancel_left_eq] at grown
  rw [← grown, List.mem_append, List.mem_append] at present
  rcases present with preliminary | measured | cleaned
  · rw [quiet exchange preliminary] at complained
    cases complained
  · have failed := measurement.reports exchange measured cause complained
    obtain ⟨failure, ended, carried⟩ :=
      checkNode_carries reserved approached orderly (Prod.ext failed rfl)
    exact ⟨failure, ended, carried.mem_chain⟩
  · have failed := cleanup.reports exchange cleaned cause complained
    obtain ⟨failure, ended, listed⟩ := checkNode_reports_cleanup reserved approached failed
    exact ⟨failure, ended, .inl listed⟩

end Checks

/-- A check that has created a claim keeps the failure of its measurement, and every failure of a
call, in the chain of its own failure, unless it runs into an impasse.  It runs into none that its
waits are kept from. -/
theorem checkNode_keeps_failures
    (checker : Checker)
    (node : String)
    (reserved : Reservation)
    (basePath : Option Text)
    {world after : World}
    {outcome : Except Failure Verdict}
    (orderly : world.script.NeverCrashes)
    (ran : (checker.checkNode node reserved basePath).run world = (outcome, after))
    {trace : List Exchange}
    (grown : after.history = world.history ++ trace)
    (created : ∃ exchange ∈ trace, exchange.call.method = .createClaim) :
    ∃ path claim job begun,
      (approach checker node basePath).run world = (.ok (path, claim, job), begun) ∧
        (∀ error earlier measured,
          (checker.measure claim job path).run begun =
              (.error (.check error earlier), measured) →
            ∃ failure, outcome = .error failure ∧
              Carried error earlier ((checker.cleanup claim job).run measured).1 failure) ∧
        (∀ exchange ∈ trace, ∀ cause, exchange.complaint? = some cause →
          ∃ failure, outcome = .error failure ∧
            (.single cause ∈ failure.chain ∨ ∃ reason, failure = .impasse reason)) ∧
        ∀ impasse, checker.RulesOut impasse → world.script.IsTimely →
          outcome ≠ .error (.impasse impasse) := by
  obtain ⟨rfl, rfl⟩ := Prod.ext_iff.mp ran
  obtain ⟨path, claim, job, begun, opening, approached, opened, quiet⟩ :=
    exists_approach_of_created grown created
  have stillOrderly : begun.script.NeverCrashes := by rwa [opened.script_eq]
  refine ⟨path, claim, job, begun, approached, ?_, ?_, ?_⟩
  · intro error earlier measured failed
    exact checkNode_carries reserved approached stillOrderly failed
  · intro exchange present cause complained
    exact checkNode_reports reserved approached opened quiet stillOrderly grown present complained
  · intro impasse ruledOut timely
    exact (avoids_checkNode ruledOut node reserved basePath world timely).1

theorem joblessScript_neverCrashes : joblessScript.NeverCrashes := by
  intro method
  cases method <;> decide

theorem checkNode_keeps_failures_jobless :
    joblessScript.NeverCrashes ∧
      (∃ exchange ∈ joblessRun.2.history, exchange.call.method = .createClaim) ∧
      joblessRun.1 =
        .error (.check
          (.single (.requestFailed
            (.deleteJob defaultNamespace (Name.probe "node" (Name.suffix 1))) (some "Forbidden")))
          [.single (.requestFailed
            (.createJob defaultNamespace
              (nextJob plainChecker "node" (.start joblessScript) [slash]))
            (some "Forbidden"))]) ∧
      ∃ path claim job begun,
        (approach plainChecker "node" (some [slash])).run (.start joblessScript) =
            (.ok (path, claim, job), begun) ∧
          (∀ error earlier measured,
            (plainChecker.measure claim job path).run begun =
                (.error (.check error earlier), measured) →
              ∃ failure, joblessRun.1 = .error failure ∧
                Carried error earlier ((plainChecker.cleanup claim job).run measured).1 failure) ∧
          (∀ exchange ∈ joblessRun.2.history, ∀ cause, exchange.complaint? = some cause →
            ∃ failure, joblessRun.1 = .error failure ∧
              (.single cause ∈ failure.chain ∨ ∃ reason, failure = .impasse reason)) ∧
          ∀ impasse, plainChecker.RulesOut impasse → joblessScript.IsTimely →
            joblessRun.1 ≠ .error (.impasse impasse) := by
  have created :
      ∃ exchange ∈ joblessRun.2.history, exchange.call.method = .createClaim := by
    decide +kernel
  refine ⟨joblessScript_neverCrashes, created, by decide +kernel, ?_⟩
  exact checkNode_keeps_failures plainChecker "node" (.bytes 1) (some [slash])
    joblessScript_neverCrashes (Prod.ext rfl rfl)
    (by rw [World.history_start, List.nil_append]; rfl) created

end Probe
end Headroom
