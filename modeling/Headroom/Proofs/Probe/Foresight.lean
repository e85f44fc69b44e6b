import Headroom.Proofs.Cluster.Settled
import Headroom.Proofs.Probe.Rejection
import Headroom.Proofs.Probe.Visits

/-!
# What is foreseen of checks

In a cluster whose script is settled and anonymous, what becomes of a check can be
read off the script: the first answer to a poll decides the wait, and the names that
are drawn for a probe make no difference.

This holds of checks that are not cancelled, and as long as no listed volume is bound
to the claim of a probe.  Then there is no volume to be waited for.
-/

namespace Headroom
namespace Probe

open Cluster Action

variable {script : Script}

section Polling

variable {α : Type} {ask : Action (Option α)} {late : Cause} {interval : Duration}

/-- A wait that is not cancelled takes its time, or its pause is overlong. -/
theorem foretells_wait (interval : Duration) :
    Foretells script (wait interval) (interval.waitable?.map fun _ => false) := by
  intro world undisturbed
  have going := undisturbed.isCancelled_eq
  have unplanned : world.cancellation.atTime = none := by
    rw [undisturbed.cancellation_eq]
    rfl
  rw [run_wait, if_neg (by simp [going]), unplanned]
  cases interval.waitable? with
  | none => exact ⟨rfl, undisturbed⟩
  | some amount => exact ⟨rfl, undisturbed.of_follows (follows_afterWait world amount)⟩

/-- In an undisturbed world it is seen that there is no cancellation. -/
theorem foretells_uncancelled_bind
    {next : Bool → Action α}
    {result : Option α}
    (rest : Foretells script (next false) result) :
    Foretells script (observe (·.isCancelled) >>= next) result := by
  intro world undisturbed
  rw [run_bind, run_observe, undisturbed.isCancelled_eq]
  exact rest world undisturbed

/-- A poll for what never comes fails in one way or another. -/
theorem foretells_poll_pending
    (asks : Foretells script ask (some none))
    (limit : Option Rat)
    (fuel : Nat) :
    Foretells script (poll ask late interval limit fuel) none := by
  induction fuel with
  | zero => exact foretells_throw (.impasse .endless)
  | succ fuel inductionHypothesis =>
      unfold poll
      refine foretells_uncancelled_bind ?_
      rw [if_neg Bool.false_ne_true]
      refine asks.bind_some ?_
      refine foretells_observe_bind ?_
      intro isLate
      split
      · exact (foretells_fail late).bind_none
      have waits : Foretells script (wait interval) (interval.waitable?.map fun _ => false) :=
        foretells_wait interval
      cases found : interval.waitable? with
      | none =>
          rw [found] at waits
          exact waits.bind_none
      | some amount =>
          rw [found] at waits
          exact waits.bind_some inductionHypothesis

/-- The first answer decides a poll. -/
theorem foretells_poll
    {answer : Option (Option α)}
    (asks : Foretells script ask answer)
    (limit : Option Rat)
    (fuel : Nat) :
    Foretells script (poll ask late interval limit (fuel + 1)) answer.join := by
  match answer with
  | some none => exact foretells_poll_pending asks limit (fuel + 1)
  | none =>
      unfold poll
      exact foretells_uncancelled_bind asks.bind_none
  | some (some value) =>
      unfold poll
      exact foretells_uncancelled_bind (asks.bind_some (foretells_pure value))

theorem foretells_pollFor
    {answer : Option (Option α)}
    (asks : Foretells script ask answer)
    (call : Call)
    (timeout : Duration) :
    Foretells script (pollFor call ask late interval timeout) answer.join := by
  intro world undisturbed
  obtain ⟨fuel, patient⟩ := exists_patience_eq_succ world call interval timeout
  unfold pollFor
  rw [run_bind, run_get]
  dsimp only
  rw [patient]
  exact foretells_poll asks _ fuel world undisturbed

end Polling

/-- What a status tells somebody who waits for a job: that it has succeeded, nothing yet, or that
it has failed. -/
def told : Option JobStatus → Option (Option Unit)
  | none => some none
  | some status =>
    if status.failed ≠ 0 then none
    else if status.succeeded ≠ 0 then some (some ())
    else some none

variable (script) (checker : Checker)

/-- The pod that is found for every job, if one is. -/
def foreseenPod : Option (Option String) := do
  ((script.standing .readJobStatus).outcome.answer?.bind told).join
  let pods ← (script.standing .listPods).outcome.answer?
  pods.head?

/-- The report that a container of a pod writes, if it can be read. -/
def foreseenReport
    (pod : Option String)
    (container : Container) : Option String :=
  (script.respond [] (.readLog checker.namespaceName pod container.name)).outcome.answer?

/-- The sample that every measurement under a base path takes, if it goes well. -/
def foreseenSample (basePath : Text) : Option Sample := do
  (script.standing .createClaim).outcome.answer?
  (script.standing .createJob).outcome.answer?
  let pod ← foreseenPod script
  let usageReport ← foreseenReport script checker pod .usage
  let mountsReport ← foreseenReport script checker pod .mounts
  (checker.sampleOfReports basePath usageReport mountsReport).toOption

/-- Whether every claim without a volume is reclaimed. -/
def foreseenReclaim : Option Unit := do
  let _ ← (script.respond [] .listVolumes).outcome.answer?
  if (script.standing .deleteClaim).outcome.IsGone then some () else none

/-- Whether every cleanup goes well that finds no volume. -/
def foreseenCleanup : Option Unit :=
  if (script.standing .deleteJob).outcome.IsGone then foreseenReclaim script else none

/-- The verdict of every check of a node that takes new pods, if it goes well. -/
def foreseenVerdict
    (node : String)
    (reserved : Reservation)
    (basePath : Text) : Option Verdict := do
  foreseenCleanup script
  let sample ← foreseenSample script checker basePath
  (judged node reserved sample).toOption

/-- What a survey makes of every check of a node: a verdict, nothing if the node takes no new pods,
or a failure. -/
def foreseen
    (node : String)
    (reserved : Reservation)
    (basePath : Text) : Option (Option Verdict) := do
  let described ← (script.respond [] (.readNode node)).outcome.answer?
  match Checker.unschedulableMarker? described with
  | some _ => some none
  | none => (foreseenVerdict script checker node reserved basePath).map some

section Measurement

variable {script}

theorem foretells_askSucceeded
    (settled : script.IsSettled)
    (anonymous : script.IsAnonymous)
    (job : String) :
    Foretells script (checker.askSucceeded job)
      ((script.standing .readJobStatus).outcome.answer?.bind told) := by
  have asked :
      Foretells script (request (.readJobStatus checker.namespaceName job))
        (script.standing .readJobStatus).outcome.answer? :=
    foretells_request_ofProbe settled anonymous rfl
  refine asked.bind ?_
  intro status
  cases status with
  | none => exact foretells_pure none
  | some counts =>
      dsimp only [told]
      split
      · exact (foretells_fail _).bind_none
      · split
        · exact foretells_pure _
        · exact foretells_pure _

theorem foretells_waitJob
    (settled : script.IsSettled)
    (anonymous : script.IsAnonymous)
    (job : String) :
    Foretells script (checker.waitJob job) (foreseenPod script) := by
  have asks := foretells_askSucceeded checker settled anonymous job
  have listed :
      Foretells script (request (.listPods checker.namespaceName job))
        (script.standing .listPods).outcome.answer? :=
    foretells_request_ofProbe settled anonymous rfl
  refine (foretells_pollFor asks _ checker.jobTimeout).bind fun _ => listed.bind ?_
  intro pods
  cases pods with
  | nil => exact foretells_fail _
  | cons pod others => exact foretells_pure pod

/-- The measurements of all probes take the same sample, or all of them fail. -/
theorem foretells_measure
    (settled : script.IsSettled)
    (anonymous : script.IsAnonymous)
    (claim : Claim)
    (job : Job)
    (basePath : Text) :
    Foretells script (checker.measure claim job basePath)
      (foreseenSample script checker basePath) := by
  have claimed :
      Foretells script (request (.createClaim checker.namespaceName claim))
        (script.standing .createClaim).outcome.answer? :=
    foretells_request_ofProbe settled anonymous rfl
  have begun :
      Foretells script (request (.createJob checker.namespaceName job))
        (script.standing .createJob).outcome.answer? :=
    foretells_request_ofProbe settled anonymous rfl
  refine (foretells_note _ _).bind_some (claimed.bind fun _ => ?_)
  refine (foretells_note _ _).bind_some (begun.bind fun _ => ?_)
  refine (foretells_waitJob checker settled anonymous job.name).bind fun pod => ?_
  refine (foretells_request settled _).bind fun usageReport => ?_
  refine (foretells_request settled _).bind fun mountsReport => ?_
  refine (foretells_note _ _).bind_some ((foretells_note _ _).bind_some ?_)
  cases checker.sampleOfReports basePath usageReport mountsReport with
  | ok sample => exact foretells_pure sample
  | error error => exact foretells_throw _

end Measurement

section Cleanup

variable {script} {checker}

/-- No listed volume is bound to a claim. -/
def BindsNone
    (script : Script)
    (claim : Reference) : Prop :=
  ∀ volumes, (script.respond [] .listVolumes).outcome = .answered volumes →
    ∀ volume ∈ volumes, isBoundTo claim volume = false

variable {trace : List Exchange} {ending : Except Failure Unit}

/-- A claim for which no volume is listed is reclaimed as all of these are. -/
theorem ReclaimRun.toOption_eq
    {reference : Reference}
    (run : ReclaimRun reference trace ending)
    (settled : script.IsSettled)
    (anonymous : script.IsAnonymous)
    (replied : RepliesOf script trace)
    (unbound : BindsNone script reference) :
    ending.toOption = foreseenReclaim script := by
  have deleted {reply : Outcome Unit} (made : ⟨.deleteClaim reference, reply⟩ ∈ trace) :
      (script.standing .deleteClaim).outcome = reply :=
    replied.standing_eq settled anonymous (.deleteClaim reference) made rfl
  unfold foreseenReclaim
  cases run with
  | @unlisted reply failure failed =>
      rw [replied.outcome_eq List.mem_cons_self]
      cases reply with
      | answered volumes => cases failed
      | _ => rfl
  | @kept volumes reply failure failed =>
      have kept := not_isGone_of_requestedIfFound failed
      rw [replied.outcome_eq List.mem_cons_self,
        deleted (List.mem_cons_of_mem _ List.mem_cons_self)]
      exact (if_neg kept).symm
  | @unbound volumes reply gone noVolume =>
      rw [replied.outcome_eq List.mem_cons_self,
        deleted (List.mem_cons_of_mem _ List.mem_cons_self)]
      exact (if_pos gone).symm
  | @bound volumes reply volume polled outcome gone first wait =>
      have listed := replied.outcome_eq List.mem_cons_self
      have free := unbound volumes listed volume (List.mem_of_find?_eq_some first)
      rw [List.find?_some first] at free
      cases free

/-- A cleanup for whose claim no volume is listed ends as all of these do. -/
theorem CleanupRun.toOption_eq
    {claim : Claim}
    {job : Job}
    (run : CleanupRun checker claim job trace ending)
    (settled : script.IsSettled)
    (anonymous : script.IsAnonymous)
    (replied : RepliesOf script trace)
    (unbound : BindsNone script claim.reference) :
    ending.toOption = foreseenCleanup script := by
  have deleted {reply : Outcome Unit}
      (made : ⟨.deleteJob checker.namespaceName job.name, reply⟩ ∈ trace) :
      (script.standing .deleteJob).outcome = reply :=
    replied.standing_eq settled anonymous (.deleteJob checker.namespaceName job.name) made rfl
  unfold foreseenCleanup
  cases run with
  | @jobKept reply failure failed =>
      have kept := not_isGone_of_requestedIfFound failed
      rw [deleted List.mem_cons_self, if_neg kept]
      rfl
  | @jobGone reply more outcome gone rest =>
      rw [deleted List.mem_cons_self, if_pos gone]
      exact rest.toOption_eq settled anonymous replied.tail unbound

theorem foretells_cleanup
    (settled : script.IsSettled)
    (anonymous : script.IsAnonymous)
    {claim : Claim}
    (unbound : BindsNone script claim.reference)
    (job : Job) :
    Foretells script (checker.cleanup claim job) (foreseenCleanup script) :=
  foretells_of_conforms settled (conforms_cleanup checker claim job)
    fun _ _ replied run => run.toOption_eq settled anonymous replied unbound

theorem foretells_judge
    (node : String)
    (reserved : Reservation)
    (sample : Sample) :
    Foretells script (Checker.judge node reserved sample)
      (judged node reserved sample).toOption := by
  unfold Checker.judge judged
  cases sample.covers? reserved with
  | none => exact foretells_throw _
  | some hasSpace =>
      dsimp only
      split
      · exact (foretells_note _ _).bind_some (foretells_pure _)
      · exact foretells_pure _

end Cleanup

section Visits

variable {script} {checker}

/-- No listed volume is bound to a claim that is created in exchanges. -/
def LeavesUnbound
    (script : Script)
    (trace : List Exchange) : Prop :=
  ∀ exchange ∈ trace, ∀ namespaceName claim,
    exchange.call = .createClaim namespaceName claim → BindsNone script claim.reference

/-- A survey takes over the ends of checks that are no rejections. -/
theorem toOption_passedOver
    {ending : Except Failure Verdict}
    (counted : ∀ failure, ending = .error failure → ¬failure.IsRejection) :
    (passedOver ending).toOption = ending.toOption.map some := by
  cases ending with
  | ok verdict => rfl
  | error failure =>
      cases passed : passedOver (.error failure) with
      | error other => rfl
      | ok found =>
          cases found with
          | none =>
              obtain ⟨other, same, rejects⟩ := passedOver_eq_none_iff.mp passed
              exact (counted other same rejects).elim
          | some verdict => cases passedOver_eq_some_iff.mp passed

/-- A node that carries no mark is approached with the next claim and the next job. -/
theorem run_approachUnder_of_unmarked
    {node : String}
    {world : World}
    {described : Node}
    (answered : (world.respond (.readNode node)).outcome = .answered described)
    (unmarked : Checker.unschedulableMarker? described = none)
    (path : Text) :
    (approachUnder checker node path).run world =
      (.ok (path, nextClaim checker node world, nextJob checker node world path),
        { world.afterCall (.readNode node) with drawn := world.drawn + 2 }) := by
  unfold approachUnder Checker.requireSchedulable
  rw [run_bind, run_request, answered]
  dsimp only [requested]
  rw [unmarked]
  rfl

/-- A check that goes on to measure ends as its measurement and its cleanup are foreseen. -/
theorem toOption_checkNode_of_unmarked
    (settled : script.IsSettled)
    (anonymous : script.IsAnonymous)
    {world : World}
    (undisturbed : Undisturbed script world)
    {node : String}
    {described : Node}
    (read : (script.respond [] (.readNode node)).outcome = .answered described)
    (unmarked : Checker.unschedulableMarker? described = none)
    (unbound : BindsNone script (nextClaim checker node world).reference)
    (reserved : Reservation)
    (basePath : Text) :
    ((checker.checkNode node reserved (some basePath)).run world).1.toOption =
      foreseenVerdict script checker node reserved basePath := by
  have answered : (world.respond (.readNode node)).outcome = .answered described := by
    rw [undisturbed.respond_eq settled, read]
  have measured :=
    foretells_measure checker settled anonymous (nextClaim checker node world)
      (nextJob checker node world basePath) basePath
  have cleaned :
      Foretells script
        (checker.cleanup (nextClaim checker node world) (nextJob checker node world basePath))
        (foreseenCleanup script) :=
    foretells_cleanup settled anonymous unbound _
  have foretold := (measured.thenAlways cleaned).bind (foretells_judge node reserved)
  have begun : Undisturbed script
      { world.afterCall (.readNode node) with drawn := world.drawn + 2 } :=
    { script_eq := undisturbed.script_eq
      cancellation_eq := undisturbed.cancellation_eq }
  rw [checkNode_eq, run_bind, approach, run_approachUnder_of_unmarked answered unmarked basePath]
  rw [Option.bind_assoc] at foretold
  exact (foretold _ begun).1

/-- In a survey every check of a node ends as it is foreseen. -/
theorem toOption_passedOver_visit
    (settled : script.IsSettled)
    (anonymous : script.IsAnonymous)
    {world : World}
    (undisturbed : Undisturbed script world)
    {node : String}
    {reserved : Reservation}
    {basePath : Text}
    (unbound : LeavesUnbound script (visit checker reserved basePath node world).trace) :
    (passedOver (visit checker reserved basePath node world).ending).toOption =
      foreseen script checker node reserved basePath := by
  obtain ⟨follows, checked⟩ := checkRun_visit checker reserved basePath node world
  have replied := undisturbed.repliesOf settled follows
  unfold foreseen
  generalize (visit checker reserved basePath node world).trace = trace at checked replied unbound
  generalize ended : (visit checker reserved basePath node world).ending = ending at checked ⊢
  obtain ⟨probe⟩ := checked
  have whole := probe
  cases probe with
  | @unread reply failure failed =>
      have unanswered : reply.answer? = none := by
        rw [← toOption_requested (.readNode node) reply, failed]
        rfl
      rw [replied.outcome_eq List.mem_cons_self, unanswered, toOption_passedOver]
      · rfl
      · rintro other ⟨⟩
        exact not_isRejection_of_requested failed
  | @marked described marker carried =>
      rw [replied.outcome_eq List.mem_cons_self]
      simp only [Outcome.answer?, Option.bind_eq_bind, Option.bind_some, carried]
      rfl
  | @probed described first more sample cleaned unmarked measurement cleanup =>
      have read := replied.outcome_eq List.mem_cons_self
      have unboundNext : BindsNone script (nextClaim checker node world).reference := by
        obtain ⟨exchange, present, creates⟩ := measurement.creates_claim
        refine unbound exchange ?_ _ _ creates
        exact List.mem_cons_of_mem _ (List.mem_append_left more present)
      have verdict := toOption_checkNode_of_unmarked settled anonymous undisturbed read unmarked
        unboundNext reserved basePath
      rw [toOption_passedOver, ← ended, visit, verdict, read]
      · simp only [Outcome.answer?, Option.bind_eq_bind, Option.bind_some, unmarked]
      · intro failure failed rejects
        -- A rejection would have done nothing but read the node, and found a mark.
        rw [failed] at whole
        obtain ⟨other, marker, onlyRead, carried, -⟩ := whole.marked_of_isRejection rejects
        obtain ⟨same, -⟩ := List.cons.inj onlyRead
        cases same
        rw [unmarked] at carried
        cases carried

end Visits

example :
    foreseen mixedScript plainChecker "node" (.bytes 1) (Text.ofString "/var") =
      some (some { node := "node", free := 38, hasSpace := true }) := by
  decide +kernel

end Probe
end Headroom
