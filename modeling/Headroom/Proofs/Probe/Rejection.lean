import Headroom.Proofs.Probe.Calls
import Headroom.Proofs.Probe.Survey

/-!
# Nodes that are rejected

A survey passes over a node whose check is a rejection.  No request is rejected, nor
is any measurement or cleanup, so that a check is a rejection only if the node was
read and carries a mark.  Then reading it was all that was done.
-/

namespace Headroom

/-- A failure by which a node is rejected, for it takes no new pods. -/
def Failure.IsRejection : Failure → Prop
  | .check (.single cause) _ => cause.kind = .schedulability
  | .check (.cleanup _) _ => False
  | .foreign _ => False
  | .impasse _ => False

namespace Probe

open Cluster Action

/-- A survey passes over the ends of checks that are rejections. -/
theorem passedOver_eq_none_iff {ending : Except Failure Verdict} :
    passedOver ending = .ok none ↔
      ∃ failure, ending = .error failure ∧ failure.IsRejection := by
  match ending with
  | .ok verdict => simp [passedOver]
  | .error (.check (.single cause) earlier) =>
      by_cases rejects : cause.kind = .schedulability <;>
        simp [passedOver, Failure.IsRejection, rejects]
  | .error (.check (.cleanup causes) earlier) => simp [passedOver, Failure.IsRejection]
  | .error (.foreign fault) => simp [passedOver, Failure.IsRejection]
  | .error (.impasse reason) => simp [passedOver, Failure.IsRejection]

/-- A survey takes over the verdicts of checks. -/
theorem passedOver_eq_some_iff
    {ending : Except Failure Verdict}
    {verdict : Verdict} :
    passedOver ending = .ok (some verdict) ↔ ending = .ok verdict := by
  match ending with
  | .ok other => simp [passedOver]
  | .error (.check (.single cause) earlier) =>
      by_cases rejects : cause.kind = .schedulability <;> simp [passedOver, rejects]
  | .error (.check (.cleanup causes) earlier) => simp [passedOver]
  | .error (.foreign fault) => simp [passedOver]
  | .error (.impasse reason) => simp [passedOver]

section Runs

variable
  {checker : Checker}
  {claim : Claim}
  {job : Job}
  {trace : List Exchange}
  {failure : Failure}

theorem not_isRejection_of_requested
    {call : Call}
    {reply : Outcome call.Reply}
    (failed : requested call reply = .error failure) :
    ¬failure.IsRejection := by
  cases reply <;> cases failed <;> exact nofun

theorem not_isRejection_of_requestedIfFound
    {call : Call}
    {reply : Outcome call.Reply}
    (failed : requestedIfFound call reply = .error failure) :
    ¬failure.IsRejection := by
  cases reply with
  | refused status reason =>
      dsimp only [requestedIfFound] at failed
      split at failed <;> cases failed
      exact nofun
  | _ => cases failed <;> exact nofun

/-- A poll is no rejection if neither its lateness nor any of its answers is one. -/
theorem PollRun.not_isRejection
    {α : Type}
    {call : Call}
    {meaning : Meaning α call}
    {late : Cause}
    (run : PollRun call meaning late trace (.error failure))
    (counted : late.kind ≠ .schedulability)
    (broken : ∀ reply other, meaning reply = .error other → ¬other.IsRejection) :
    ¬failure.IsRejection := by
  rcases run.failure_cases rfl with rfl | ⟨reason, rfl⟩ | rfl | ⟨reply, -, means⟩
  · exact nofun
  · exact nofun
  · exact counted
  · exact broken reply failure means

theorem ReclaimRun.not_isRejection
    {reference : Reference}
    (run : ReclaimRun reference trace (.error failure)) :
    ¬failure.IsRejection := by
  cases run with
  | unlisted failed => exact not_isRejection_of_requested failed
  | kept failed => exact not_isRejection_of_requestedIfFound failed
  | bound gone first wait =>
      refine wait.not_isRejection nofun ?_
      intro reply other means
      unfold absence at means
      split at means
      · cases means
      · cases means
      · rename_i failed
        cases means
        exact not_isRejection_of_requestedIfFound failed

theorem CleanupRun.not_isRejection
    (run : CleanupRun checker claim job trace (.error failure)) :
    ¬failure.IsRejection := by
  cases run with
  | jobKept failed => exact not_isRejection_of_requestedIfFound failed
  | jobGone gone rest => exact rest.not_isRejection

theorem WaitRun.not_isRejection
    {namespaceName name : String}
    (run : WaitRun namespaceName name trace (.error failure)) :
    ¬failure.IsRejection := by
  cases run with
  | unfinished wait =>
      refine wait.not_isRejection nofun ?_
      intro reply other means
      unfold success at means
      split at means
      · cases means
      · split at means
        · cases means
          exact nofun
        · split at means <;> cases means
      · rename_i failed
        cases means
        exact not_isRejection_of_requested failed
  | unlisted wait failed => exact not_isRejection_of_requested failed
  | podless wait => exact nofun

theorem MeasureRun.not_isRejection
    {basePath : Text}
    {outcome : Except Failure Sample}
    (run : MeasureRun checker claim job basePath trace outcome)
    (ended : outcome = .error failure) :
    ¬failure.IsRejection := by
  cases run with
  | claimRefused failed =>
      cases ended
      exact not_isRejection_of_requested failed
  | jobRefused failed =>
      cases ended
      exact not_isRejection_of_requested failed
  | podless wait =>
      cases ended
      exact wait.not_isRejection
  | usageUnread wait failed =>
      cases ended
      exact not_isRejection_of_requested failed
  | mountsUnread wait failed =>
      cases ended
      exact not_isRejection_of_requested failed
  | @reported waits pod usageReport mountsReport wait =>
      cases read : checker.sampleOfReports basePath usageReport mountsReport with
      | ok sample =>
          rw [read] at ended
          cases ended
      | error error =>
          rw [read] at ended
          cases ended
          cases error <;> exact nofun

/-- What settles a measurement and its cleanup is a rejection only if one of them is. -/
theorem not_isRejection_of_settle
    {α : Type}
    {outcome : Except Failure α}
    {ending : Except Failure Unit}
    (settled : settle outcome ending = .error failure)
    (measured : ∀ other, outcome = .error other → ¬other.IsRejection)
    (cleaned : ∀ other, ending = .error other → ¬other.IsRejection) :
    ¬failure.IsRejection := by
  match outcome, ending with
  | outcome, .ok () =>
      rw [settle_ok] at settled
      exact measured failure settled
  | .ok value, .error later =>
      cases settled
      exact cleaned failure rfl
  | .error first, .error later =>
      cases settled
      have counted := cleaned later rfl
      match later with
      | .check (.single cause) earlier => exact counted
      | .check (.cleanup causes) earlier => exact nofun
      | .foreign fault => exact nofun
      | .impasse reason => exact nofun

/-- A probe that is a rejection has read its node, which carries the mark that it tells of, and
has done nothing else. -/
theorem ProbeRun.marked_of_isRejection
    {node : String}
    {reserved : Reservation}
    {basePath : Text}
    (run : ProbeRun checker node reserved basePath claim job trace (.error failure))
    (rejects : failure.IsRejection) :
    ∃ described marker,
      trace = [⟨.readNode node, .answered described⟩] ∧
        Checker.unschedulableMarker? described = some marker ∧
          failure = .of (.unschedulable (described.metadata.bind (·.name)) marker) := by
  generalize ended : (.error failure : Except Failure Verdict) = outcome at run
  cases run with
  | unread failed =>
      cases ended
      exact (not_isRejection_of_requested failed rejects).elim
  | marked carried =>
      cases ended
      exact ⟨_, _, rfl, carried, rfl⟩
  | @probed described first more sample ending unmarked measurement cleanup =>
      -- Neither the measurement nor its cleanup is a rejection, nor is a judgement.
      cases settled : settle sample ending with
      | error other =>
          rw [settled] at ended
          cases ended
          refine (not_isRejection_of_settle settled ?_ ?_ rejects).elim
          · exact fun other failed => measurement.not_isRejection failed
          · rintro other rfl
            exact cleanup.not_isRejection
      | ok value =>
          rw [settled] at ended
          dsimp only [Except.bind, judged] at ended
          split at ended
          · cases ended
            exact rejects.elim
          · cases ended

end Runs
end Probe
end Headroom
