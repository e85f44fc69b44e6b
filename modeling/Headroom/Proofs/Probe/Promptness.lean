import Headroom.Proofs.Probe.Legs
import Headroom.Proofs.Probe.Punctuality
import Headroom.Proofs.Probe.Removal
import Headroom.Proofs.Probe.Soundness

/-!
# Cancellation is heeded at once

A wait puts no question in a cancelled run, and from the moment at which the run is
cancelled no more time passes in it than the question that is then being answered takes.
The cancellation ends waits and nothing else: what a check has made is removed all the
same.

A verdict takes the status of a job, which is read in a wait.  So a check that is
cancelled when it begins never comes to one.
-/

namespace Headroom
namespace Cluster
namespace Action

variable {world after : World} {interval : Duration}

/-- Nobody waits in a run that is cancelled. -/
theorem run_wait_of_isCancelled
    (cancelled : world.isCancelled = true)
    (interval : Duration) :
    (wait interval).run world = (.ok true, world) := by
  rw [run_wait, if_pos cancelled]

/-- A wait that the cancellation cuts short ends when that comes. -/
theorem atTime_of_wait
    (ran : (wait interval).run world = (.ok true, after))
    (going : world.isCancelled = false) :
    after.cancellation.atTime = some after.clock := by
  rw [run_wait, going, if_neg Bool.false_ne_true] at ran
  split at ran
  · cases ran
  · rename_i amount found
    rw [Prod.mk.injEq, Except.ok.injEq] at ran
    obtain ⟨ended, rfl⟩ := ran
    cases planned : world.cancellation.atTime with
    | none => simp [planned] at ended
    | some time =>
        have passed : time ≤ world.clock + amount := by simpa [planned] using ended
        simp [World.afterWait, planned, passed]

/-- A wait of full length leaves a run that is not cancelled. -/
theorem going_of_wait
    (ran : (wait interval).run world = (.ok false, after)) :
    after.isCancelled = false := by
  obtain ⟨amount, found, clock_eq⟩ := clock_of_wait ran
  rw [run_wait, found] at ran
  split at ran
  · cases ran
  rename_i notCancelled
  rw [Prod.mk.injEq, Except.ok.injEq] at ran
  obtain ⟨unended, rfl⟩ := ran
  rw [World.afterWait_eq, clock_eq]
  simp only [World.isCancelled, Bool.or_eq_true, not_or, Bool.not_eq_true] at notCancelled ⊢
  rw [unended, notCancelled.2]
  rfl

/-- A wait that fails leaves the world as it is. -/
theorem eq_of_wait
    {failure : Failure}
    (ran : (wait interval).run world = (.error failure, after)) :
    after = world := by
  rw [run_wait] at ran
  split at ran
  · cases ran
  · split at ran <;> cases ran
    rfl

end Action
end Cluster

namespace Probe

open Cluster Action

section Timelines

variable
  {α : Type}
  {call : Call}
  {meaning : Meaning α call}
  {late : Cause}
  {interval : Duration}
  {limit : Option Rat}
  {world asking answered after : World}
  {askings : List World}
  {answer : Except Failure (Option α)}
  {outcome : Except Failure α}

/-- The run is cancelled when an answer has come exactly if it is so after the call. -/
theorem Asked.isCancelled_eq (asked : Asked call meaning asking answer answered) :
    answered.isCancelled = (asking.afterCall call).isCancelled := by
  obtain ⟨records, rfl⟩ := asked.answered_eq
  rfl

/-- Questions are put while the run is not cancelled. -/
theorem Timeline.going
    (timeline : Timeline call meaning late interval limit world askings outcome after) :
    ∀ asking ∈ askings, asking.isCancelled = false := by
  induction timeline with
  | cancelled isCancelled => simp
  | exhausted => simp
  | found asked => simpa using asked.going
  | failed asked => simpa using asked.going
  | late asked isLate => simpa using asked.going
  | interrupted asked inTime ran => simpa using asked.going
  | overlong asked inTime ran => simpa using asked.going
  | again asked inTime ran rest inductionHypothesis =>
      simpa using ⟨asked.going, inductionHypothesis⟩

/-- After an answer with which the run is cancelled, no more time passes. -/
theorem Timeline.clock_eq_of_answer
    (timeline : Timeline call meaning late interval limit world askings outcome after)
    (put : asking ∈ askings)
    (cancelled : (asking.afterCall call).isCancelled = true) :
    after.clock = (asking.afterCall call).clock := by
  -- In a world in which an answer has come and the run is cancelled, a wait is over.
  have cutOff {asker answered : World} {answer : Except Failure (Option α)}
      (asked : Asked call meaning asker answer answered)
      (same : asking = asker) :
      (wait interval).run answered = (.ok true, answered) := by
    rw [same, ← asked.isCancelled_eq] at cancelled
    exact run_wait_of_isCancelled cancelled interval
  induction timeline with
  | cancelled isCancelled => cases put
  | exhausted => cases put
  | found asked =>
      cases List.mem_singleton.mp put
      exact asked.clock_eq
  | failed asked =>
      cases List.mem_singleton.mp put
      exact asked.clock_eq
  | late asked isLate =>
      cases List.mem_singleton.mp put
      exact asked.clock_eq
  | interrupted asked inTime ran =>
      cases List.mem_singleton.mp put
      rw [cutOff asked rfl] at ran
      cases ran
      exact asked.clock_eq
  | overlong asked inTime ran =>
      rw [cutOff asked (List.mem_singleton.mp put)] at ran
      cases ran
  | again asked inTime ran rest inductionHypothesis =>
      rcases List.mem_cons.mp put with same | later
      · rw [cutOff asked same] at ran
        cases ran
      · exact inductionHypothesis later

/-- A run that is cancelled neither when the wait begins nor with an answer is cancelled in a
pause, which ends at that time. -/
theorem Timeline.atTime_of_pause
    (timeline : Timeline call meaning late interval limit world askings outcome after)
    (cancelled : after.isCancelled = true)
    (going : world.isCancelled = false)
    (goingOn : ∀ asking ∈ askings, (asking.afterCall call).isCancelled = false) :
    after.cancellation.atTime = some after.clock := by
  -- With an answer at which the wait ends, the run is not cancelled.
  have impossible {asking : World} {answer : Except Failure (Option α)}
      (asked : Asked call meaning asking answer after)
      (goingOn : ∀ other ∈ [asking], (other.afterCall call).isCancelled = false) :
      False := by
    rw [asked.isCancelled_eq, goingOn asking (List.mem_singleton_self asking)] at cancelled
    cases cancelled
  induction timeline with
  | cancelled isCancelled =>
      rw [going] at isCancelled
      cases isCancelled
  | exhausted =>
      rw [going] at cancelled
      cases cancelled
  | found asked => exact (impossible asked goingOn).elim
  | failed asked => exact (impossible asked goingOn).elim
  | late asked isLate => exact (impossible asked goingOn).elim
  | interrupted asked inTime ran =>
      refine atTime_of_wait ran ?_
      rw [asked.isCancelled_eq]
      exact goingOn _ (List.mem_singleton_self _)
  | overlong asked inTime ran =>
      obtain rfl := eq_of_wait ran
      exact (impossible asked goingOn).elim
  | again asked inTime ran rest inductionHypothesis =>
      exact inductionHypothesis cancelled (going_of_wait ran)
        (fun other put => goingOn other (List.mem_cons_of_mem _ put)) impossible

end Timelines

/-- How a wait heeds the cancellation of its run. -/
structure Wait.IsPrompt (wait : Wait) : Prop where
  /-- No question is put while the run is cancelled. -/
  going : ∀ asking ∈ wait.askings, asking.isCancelled = false
  /-- If the run is cancelled when the wait begins, no time passes. -/
  stays : wait.begun.isCancelled = true → wait.ended.clock = wait.begun.clock
  /-- If the run is cancelled when an answer has come, no time passes after that. -/
  stops_after_answer :
    ∀ asking ∈ wait.askings, (asking.afterCall wait.call).isCancelled = true →
      wait.ended.clock = (asking.afterCall wait.call).clock
  /-- Otherwise the run is cancelled in a pause, and the wait ends at that time. -/
  stops_in_pause :
    wait.ended.isCancelled = true →
      wait.begun.isCancelled = false →
        (∀ asking ∈ wait.askings, (asking.afterCall wait.call).isCancelled = false) →
          wait.ended.cancellation.atTime = some wait.ended.clock
  /-- It fails as cancelled only if the run is cancelled. -/
  cancelled : wait.outcome = .error (.of .cancelled) → wait.ended.isCancelled = true

theorem Wait.isPrompt (wait : Wait) : wait.IsPrompt where
  going := wait.timeline.going
  stays := fun cancelled => by rw [(wait.timeline.eq_of_isCancelled cancelled).2]
  stops_after_answer := fun _ put cancelled => wait.timeline.clock_eq_of_answer put cancelled
  stops_in_pause := wait.timeline.atTime_of_pause
  cancelled := wait.timeline.isCancelled
    (fun reply meant => wait.unmeant reply _ meant (Failure.isCancellation_of_iff.mpr rfl))
    wait.expected

section Reclaiming

theorem unmeant_absence
    {volume : String}
    (reply : Outcome Unit)
    (failure : Failure)
    (meant : absence volume reply = .error failure) :
    ¬failure.IsCancellation := by
  rcases absence_error_cases meant with ⟨reason, rfl⟩ | ⟨text, rfl⟩
  · exact mt Failure.isCancellation_of_iff.mp nofun
  · exact Failure.not_isCancellation_foreign _

variable {reclaimer : Reclaimer}

theorem moves_deleteClaim (claim : Reference) : Moves (reclaimer.deleteClaim claim) := by
  unfold Reclaimer.deleteClaim findVolume
  refine ((moves_request rfl).bind fun volumes => moves_pure _).bind fun volume => ?_
  refine (moves_note _ _).bind fun _ => ?_
  refine ((moves_requestIfFound rfl).map _).bind fun _ => ?_
  cases volume with
  | none => exact moves_note _ _
  | some volume =>
      refine (moves_note _ _).bind fun _ => ?_
      exact moves_pollFor (asksOnly_askGone volume.name) rfl unmeant_absence (by nofun) _ _

/-- Claims are dealt with in turn until one of them finds the run cancelled. -/
theorem moves_deleteEach (claims : List Reference) : Moves (reclaimer.deleteEach claims) := by
  induction claims with
  | nil => exact moves_pure []
  | cons claim others inductionHypothesis =>
      unfold Reclaimer.deleteEach
      refine (moves_deleteClaim claim).attempt_bind ?_
      rintro ((⟨cause | causes, earlier⟩ | fault | _) | _)
      · dsimp only
        split
        · exact .inr ⟨_, rfl, rfl⟩
        · refine .inl ((moves_note _ _).bind fun _ => inductionHypothesis.bind fun causes => ?_)
          exact moves_pure (cause :: causes)
      · exact .inr ⟨_, rfl, rfl⟩
      · exact .inr ⟨_, rfl, rfl⟩
      · exact .inr ⟨_, rfl, rfl⟩
      · exact .inl inductionHypothesis

/-- Causes that are gathered do not tell that the run is cancelled. -/
theorem EachRun.cancelled_not_mem
    {claims : List Reference}
    {trace : List Exchange}
    {outcome : Except Failure (List Cause)}
    (run : EachRun claims trace outcome)
    {causes : List Cause}
    (ended : outcome = .ok causes) :
    .cancelled ∉ causes := by
  induction run generalizing causes with
  | none =>
      cases ended
      exact List.not_mem_nil
  | gone first rest inductionHypothesis => exact inductionHypothesis ended
  | @kept claim others cause trace more outcome first goesOn rest inductionHypothesis =>
      cases outcome with
      | error failure => cases ended
      | ok gathered =>
          cases ended
          rw [List.mem_cons, not_or]
          exact ⟨goesOn.symm, inductionHypothesis rfl⟩
  | stopped first stops => cases ended

theorem moves_deleteClaims (claims : List Reference) : Moves (reclaimer.deleteClaims claims) := by
  intro world
  refine (moves_deleteEach claims world).bind ?_
  intro causes after ran
  obtain ⟨trace, -, run⟩ := conforms_deleteEach reclaimer claims world
  rw [ran] at run
  have uncancelled := run.cancelled_not_mem rfl
  match causes with
  | [] => exact moves_pure () after
  | [cause] =>
      refine moves_fail ?_ after
      rintro rfl
      exact uncancelled (List.mem_singleton_self _)
  | first :: second :: others =>
      exact moves_throw (by simp [Failure.IsCancellation, Failure.chain]) after

end Reclaiming

section Checking

variable {checker : Checker}

theorem unmeant_success
    {namespaceName job : String}
    (reply : Outcome (Option JobStatus))
    (failure : Failure)
    (meant : success namespaceName job reply = .error failure) :
    ¬failure.IsCancellation := by
  rcases success_error_cases meant with rfl | ⟨reason, rfl⟩ | ⟨text, rfl⟩
  · exact mt Failure.isCancellation_of_iff.mp nofun
  · exact mt Failure.isCancellation_of_iff.mp nofun
  · exact Failure.not_isCancellation_foreign _

theorem moves_waitJob (job : String) : Moves (checker.waitJob job) := by
  refine Moves.bind ?_ fun _ => ?_
  · exact moves_pollFor (asksOnly_askSucceeded checker job) rfl unmeant_success (by nofun) _ _
  refine (moves_request rfl).bind ?_
  rintro (_ | ⟨pod, others⟩)
  · exact moves_fail nofun
  · exact moves_pure pod

theorem moves_measure
    (claim : Claim)
    (job : Job)
    (basePath : Text) :
    Moves (checker.measure claim job basePath) := by
  refine (moves_note _ _).bind fun _ => (moves_request rfl).bind fun _ => ?_
  refine (moves_note _ _).bind fun _ => (moves_request rfl).bind fun _ => ?_
  refine (moves_waitJob job.name).bind fun pod => ?_
  refine (moves_request rfl).bind fun usageReport => (moves_request rfl).bind fun mountsReport => ?_
  refine (moves_note _ _).bind fun _ => (moves_note _ _).bind fun _ => ?_
  cases checker.sampleOfReports basePath usageReport mountsReport with
  | ok sample => exact moves_pure sample
  | error error =>
      cases error with
      | malformed reason => exact moves_fail nofun
      | oversizedCount => exact moves_foreign _

theorem moves_cleanup
    (claim : Claim)
    (job : Job) :
    Moves (checker.cleanup claim job) := by
  refine (moves_note _ _).bind fun _ => ?_
  refine ((moves_requestIfFound rfl).map _).bind fun _ => ?_
  exact moves_deleteClaims _

theorem moves_judge
    (node : String)
    (reserved : Reservation)
    (sample : Sample) :
    Moves (Checker.judge node reserved sample) := by
  unfold Checker.judge
  cases sample.covers? reserved with
  | none => exact moves_foreign _
  | some hasSpace =>
      dsimp only
      split
      · exact (moves_note _ _).bind fun _ => moves_pure _
      · exact moves_pure _

theorem moves_probe
    (node : String)
    (reserved : Reservation)
    (basePath : Text) :
    Moves (checker.probe node reserved basePath) := by
  unfold Checker.probe Checker.requireSchedulable
  refine (moves_request rfl).bind fun described => ?_
  cases Checker.unschedulableMarker? described with
  | some marker => exact moves_fail_bind (by nofun)
  | none =>
      rw [pure_bind]
      refine (moves_drawSuffix.bind fun _ => moves_drawSuffix.bind fun _ => moves_pure _).bind ?_
      rintro ⟨claim, job⟩
      refine Moves.bind ?_ fun sample => moves_judge node reserved sample
      exact (moves_measure claim job basePath).thenAlways (moves_cleanup claim job)

theorem moves_basePath (checker : Checker) : Moves checker.basePath := by
  refine (moves_call rfl).bind ?_
  rintro (storageClass | ⟨status, reason⟩ | reason | text)
  · dsimp only
    cases StorageClass.basePath checker.limits (storageClass.annotations.getD []) with
    | ok path => exact moves_pure path
    | error error =>
        cases error with
        | rejected reason => exact moves_fail nofun
        | undefinedScalar fault => exact moves_foreign _
  · dsimp only
    split
    · exact moves_fail nofun
    · exact moves_fail nofun
  · exact moves_fail nofun
  · exact moves_foreign _

/-- Every check of a node moves on in legs. -/
theorem moves_checkNode
    (node : String)
    (reserved : Reservation)
    (basePath : Option Text) :
    Moves (checker.checkNode node reserved basePath) := by
  cases basePath with
  | some path => exact moves_probe node reserved path
  | none => exact (moves_basePath checker).bind fun path => moves_probe node reserved path

end Checking

section Runs

variable
  {checker : Checker}
  {node : String}
  {reserved : Reservation}
  {claim : Claim}
  {trace : List Exchange}
  {outcome : Except Failure Verdict}

/-- A probe whose job is gone, and that gets a list of the volumes, deletes its claim. -/
theorem ProbeRun.deletes_claim
    {path : Text}
    {job : Job}
    (run : ProbeRun checker node reserved path claim job trace outcome)
    {reply : Outcome Unit}
    (deleted : ⟨.deleteJob checker.namespaceName job.name, reply⟩ ∈ trace)
    (gone : reply.IsGone)
    {volumes : List Volume}
    (listed : ⟨.listVolumes, .answered volumes⟩ ∈ trace) :
    ∃ exchange ∈ trace, exchange.call = .deleteClaim claim.reference := by
  have created :
      ∃ exchange ∈ trace, exchange.call = .createClaim checker.namespaceName claim := by
    cases run with
    | unread failed => cases List.mem_singleton.mp deleted
    | marked carried => cases List.mem_singleton.mp deleted
    | probed unmarked measurement cleanup =>
        obtain ⟨creation, made, creates⟩ := measurement.creates_claim
        exact ⟨creation, List.mem_cons_of_mem _ (List.mem_append_left _ made), creates⟩
  obtain ⟨creation, present, creates⟩ := created
  obtain ⟨-, removes⟩ := run.removes present creates
  exact removes.deletes_claim_iff.mpr ⟨⟨reply, deleted, gone⟩, volumes, listed⟩

variable {job : Text → Job} {jobName : String} {basePath : Option Text}

/-- So does a check, which probes a node at most once. -/
theorem CheckRun.deletes_claim
    (run : CheckRun checker node reserved claim job basePath trace outcome)
    (named : ∀ path, (job path).name = jobName)
    {reply : Outcome Unit}
    (deleted : ⟨.deleteJob checker.namespaceName jobName, reply⟩ ∈ trace)
    (gone : reply.IsGone)
    {volumes : List Volume}
    (listed : ⟨.listVolumes, .answered volumes⟩ ∈ trace) :
    ∃ exchange ∈ trace, exchange.call = .deleteClaim claim.reference := by
  cases run with
  | @given path trace outcome probe =>
      rw [← named path] at deleted
      exact probe.deletes_claim deleted gone listed
  | unresolved failed => cases List.mem_singleton.mp deleted
  | @found reply path trace outcome went probe =>
      rw [← named path] at deleted
      have deletedThen := (List.mem_cons.mp deleted).resolve_left nofun
      have listedThen := (List.mem_cons.mp listed).resolve_left nofun
      obtain ⟨exchange, present, deletes⟩ := probe.deletes_claim deletedThen gone listedThen
      exact ⟨exchange, List.mem_cons_of_mem _ present, deletes⟩

/-- A check comes to a verdict only by reading the status of its job. -/
theorem CheckRun.reads_status
    (run : CheckRun checker node reserved claim job basePath trace outcome)
    {verdict : Verdict}
    (ended : outcome = .ok verdict) :
    ∃ exchange ∈ trace, exchange.call.method = .readJobStatus := by
  have supported : Nonempty (Evidence checker node reserved basePath trace verdict) := by
    cases run with
    | given probe =>
        subst ended
        exact probe.ends_with_verdict [] rfl
    | unresolved failed => cases ended
    | @found reply path trace outcome went probe =>
        subst ended
        exact probe.ends_with_verdict [⟨.readStorageClass checker.destinationClass, reply⟩] rfl
  obtain ⟨evidence⟩ := supported
  refine ⟨⟨.readJobStatus checker.namespaceName evidence.job.name,
    .answered (some evidence.lastStatus)⟩, ?_, rfl⟩
  refine (List.Perm.of_eq evidence.trace_eq).mem_iff.mpr ?_
  simp

end Runs

/-- How the legs of a check, and its end, heed the cancellation of the run. -/
structure IsHeedful
    (checker : Checker)
    (node : String)
    (world : World)
    (legs : List Leg)
    (outcome : Except Failure Verdict) : Prop where
  /-- No status of a job and no volume is read while the run is cancelled. -/
  going :
    ∀ leg ∈ legs, ∀ asking call, (asking, call) ∈ leg.calls →
      call.method.polls = true → asking.isCancelled = false
  /-- Where these are read, somebody waits. -/
  in_waits : ∀ begun call, .call begun call ∈ legs → call.method.polls = false
  prompt : ∀ wait, .wait wait ∈ legs → wait.IsPrompt
  /-- The check fails as cancelled, or in the wake of that, only if one of its waits found the run
  to be so. -/
  cancelled :
    ∀ failure, outcome = .error failure → failure.IsCancellation →
      ∃ wait, .wait wait ∈ legs ∧
        wait.outcome = .error (.of .cancelled) ∧ wait.ended.isCancelled = true
  /-- The claim is deleted, cancelled or not, if the job is gone and the volumes were listed. -/
  deletes_claim :
    ∀ reply volumes,
      ⟨.deleteJob checker.namespaceName (Name.probe node (world.suffixes (world.drawn + 1))),
          reply⟩ ∈ legs.flatMap Leg.exchanges →
        reply.IsGone →
          ⟨.listVolumes, .answered volumes⟩ ∈ legs.flatMap Leg.exchanges →
            ∃ exchange ∈ legs.flatMap Leg.exchanges,
              exchange.call = .deleteClaim (nextClaim checker node world).reference
  /-- There is no verdict in a run that is cancelled from the beginning, if time does not run
  backwards. -/
  verdictless :
    world.script.IsTimely → world.isCancelled = true → ∀ verdict, outcome ≠ .ok verdict

section Legs

variable {α : Type} {world after : World} {legs : List Leg} {outcome : Except Failure α}

/-- What is polled is polled in a run that is not cancelled. -/
theorem Explains.going
    (explains : Explains legs outcome)
    {leg : Leg}
    (present : leg ∈ legs)
    {asking : World}
    {call : Call}
    (made : (asking, call) ∈ leg.calls)
    (polls : call.method.polls = true) :
    asking.isCancelled = false := by
  cases leg with
  | call begun request =>
      cases List.mem_singleton.mp made
      rw [explains.once _ _ present] at polls
      cases polls
  | wait waiting =>
      obtain ⟨asker, put, same⟩ := List.mem_map.mp made
      cases same
      exact waiting.isPrompt.going _ put

/-- Nothing is polled in a run that is cancelled from the beginning. -/
theorem Explains.polls_eq_false
    (explains : Explains legs outcome)
    (leads : Leads world legs after)
    (timely : world.script.IsTimely)
    (cancelled : world.isCancelled = true)
    {exchange : Exchange}
    (present : exchange ∈ legs.flatMap Leg.exchanges) :
    exchange.call.method.polls = false := by
  obtain ⟨leg, led, made⟩ := List.mem_flatMap.mp present
  have stillCancelled := leads.isCancelled_begun timely cancelled leg led
  cases leg with
  | call begun request =>
      rw [Leg.exchanges_call, List.mem_singleton] at made
      subst made
      exact explains.once begun request led
  | wait waiting =>
      have unasked : waiting.askings = [] :=
        (waiting.timeline.eq_of_isCancelled stillCancelled).1
      rw [Leg.exchanges_wait, unasked] at made
      cases made

end Legs

/-- Every check of a node moves on in legs that heed the cancellation of its run at once. -/
theorem checkNode_heeds_cancellation
    (checker : Checker)
    (node : String)
    (reserved : Reservation)
    (basePath : Option Text)
    (world : World) :
    ∃ legs,
      Leads world legs ((checker.checkNode node reserved basePath).run world).2 ∧
        IsHeedful checker node world legs
          ((checker.checkNode node reserved basePath).run world).1 := by
  obtain ⟨legs, leads, explains⟩ := moves_checkNode node reserved basePath world
  obtain ⟨trace, follows, run⟩ := conforms_checkNode checker node reserved world basePath
  -- The exchanges of the legs are those that the grammar of checks describes.
  obtain rfl : legs.flatMap Leg.exchanges = trace :=
    List.append_cancel_left (leads.history_eq.symm.trans follows.history_eq)
  refine ⟨legs, leads, ?_⟩
  constructor
  case going => exact fun leg present asking call => explains.going present
  case in_waits => exact explains.once
  case prompt => exact fun wait _ => wait.isPrompt
  case cancelled =>
    intro failure ended cancellation
    obtain ⟨wait, present, was⟩ := explains.cancelled failure ended cancellation
    exact ⟨wait, present, was, wait.isPrompt.cancelled was⟩
  case deletes_claim =>
    intro reply volumes deleted gone listed
    exact run.deletes_claim (fun path => rfl) deleted gone listed
  case verdictless =>
    intro timely cancelled verdict ended
    obtain ⟨exchange, present, reads⟩ := run.reads_status ended
    have unpolled := explains.polls_eq_false leads timely cancelled present
    rw [reads] at unpolled
    cases unpolled

theorem roomyScript_isTimely : roomyScript.IsTimely := by
  intro method
  cases method <;> decide

/-- The beginning of a run against a cluster with room that is cancelled at a time. -/
def cutShort (time : Rat) : World :=
  { World.start roomyScript with cancellation := { atTime := some time, atCall := none } }

/-- What becomes of a node in that run. -/
def cutShortRun (time : Rat) : Except Failure Verdict × World :=
  (plainChecker.checkNode "node" (.bytes 1) (some [slash])).run (cutShort time)

theorem checkNode_heeds_cancellation_cutShort :
    (∃ legs,
        Leads (cutShort 1) legs (cutShortRun 1).2 ∧
          IsHeedful plainChecker "node" (cutShort 1) legs (cutShortRun 1).1) ∧
      (cutShortRun 1).1 =
        .error (.check (.single .cancelled) [.single .cancelled]) ∧
      (cutShortRun 1).2.clock = 1 ∧
      (cutShortRun 1).2.calls.map Call.method =
        [.readNode, .createClaim, .createJob, .readJobStatus, .deleteJob, .listVolumes,
          .deleteClaim] ∧
      roomyScript.IsTimely ∧ (cutShort 0).isCancelled = true ∧
      ∀ verdict, (cutShortRun 0).1 ≠ .ok verdict := by
  have begun : (cutShort 0).isCancelled = true := by decide
  obtain ⟨legs, leads, heedful⟩ :=
    checkNode_heeds_cancellation plainChecker "node" (.bytes 1) (some [slash]) (cutShort 0)
  refine ⟨?_, by decide +kernel, by decide +kernel, by decide +kernel, roomyScript_isTimely,
    begun, heedful.verdictless roomyScript_isTimely begun⟩
  exact checkNode_heeds_cancellation plainChecker "node" (.bytes 1) (some [slash]) (cutShort 1)

end Probe
end Headroom
