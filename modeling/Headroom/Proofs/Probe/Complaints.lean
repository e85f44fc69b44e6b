import Headroom.Proofs.Cluster.Ending
import Headroom.Proofs.Probe.Measurement

/-!
# Complaints about calls

A call that fails gives cause for complaint, unless all that is wrong is that
something to be removed does not exist.  Whatever part of a check makes such a call
goes no further, and fails for just that cause.

The only other way in which a call can go wrong is that it breaks off, which no call
to an orderly script does.
-/

namespace Headroom
namespace Cluster

/-- Whether a call breaks off in a way that nobody expects. -/
def Outcome.crashes
    {α : Type} :
    Outcome α → Bool
  | .crashed _ => true
  | _ => false

/-- No call to a scripted cluster breaks off in a way that nobody expects. -/
def Script.NeverCrashes (script : Script) : Prop :=
  ∀ method, ∀ route ∈ script.routes method, ∀ response ∈ route.responses,
    response.outcome.crashes = false

@[simp] theorem Method.crashes_unscripted (argument : String) (method : Method) :
    (method.unscripted argument).outcome.crashes = false := by
  cases method <;> rfl

/-- No answer of such a script breaks off, and so none does in a run against it. -/
theorem Follows.crashes_eq
    {before after : World}
    {trace : List Exchange}
    (follows : Follows before trace after)
    (orderly : before.script.NeverCrashes)
    {exchange : Exchange}
    (present : exchange ∈ trace) :
    exchange.outcome.crashes = false := by
  obtain ⟨earlier, answered⟩ := follows.answered exchange present
  rw [answered]
  rcases before.script.respond_cases earlier exchange.call with
    unprepared | ⟨route, listed, prepared⟩
  · rw [unprepared, Method.crashes_unscripted]
  · exact orderly exchange.call.method route listed _ prepared

/-- The methods that serve to find something gone, so that its absence is no failure. -/
def Method.toleratesAbsence : Method → Bool
  | .deleteJob | .deleteClaim | .readVolume => true
  | _ => false

/-- The cause for which whoever made a call has to fail, if there is one. -/
def Exchange.complaint? (exchange : Exchange) : Option Cause :=
  match exchange.outcome with
  | .answered _ => none
  | .refused status reason =>
    if exchange.call.method.toleratesAbsence = true ∧ status = notFound then none
    else some (.requestFailed exchange.call reason)
  | .unreachable reason => some (.requestFailed exchange.call reason)
  | .crashed _ => none

section Complaints

variable {call : Call} {reply : Outcome call.Reply} {cause : Cause}

/-- A request fails for the complaint about its call. -/
theorem requested_of_complaint
    (complained : Exchange.complaint? ⟨call, reply⟩ = some cause) :
    requested call reply = .error (.of cause) := by
  cases reply with
  | answered value => cases complained
  | refused status reason =>
      dsimp only [Exchange.complaint?] at complained
      split at complained
      · cases complained
      · cases complained
        rfl
  | unreachable reason =>
      cases complained
      rfl
  | crashed text => cases complained

/-- A tolerant request fails for the complaint about its call. -/
theorem requestedIfFound_of_complaint
    (tolerant : call.method.toleratesAbsence = true)
    (complained : Exchange.complaint? ⟨call, reply⟩ = some cause) :
    requestedIfFound call reply = .error (.of cause) := by
  cases reply with
  | answered value => cases complained
  | refused status reason =>
      dsimp only [Exchange.complaint?] at complained
      split at complained
      · cases complained
      · rename_i counted
        cases complained
        rw [requestedIfFound, if_neg fun absent => counted ⟨tolerant, absent⟩]
  | unreachable reason =>
      cases complained
      rfl
  | crashed text => cases complained

/-- A request ends with a fault only if its call broke off. -/
theorem crashes_of_requested
    {fault : Foreign}
    (failed : requested call reply = .error (.foreign fault)) :
    reply.crashes = true := by
  cases reply with
  | answered value => cases failed
  | refused status reason => cases failed
  | unreachable reason => cases failed
  | crashed text => rfl

theorem crashes_of_requestedIfFound
    {fault : Foreign}
    (failed : requestedIfFound call reply = .error (.foreign fault)) :
    reply.crashes = true := by
  cases reply with
  | answered value => cases failed
  | refused status reason =>
      dsimp only [requestedIfFound] at failed
      split at failed <;> cases failed
  | unreachable reason => cases failed
  | crashed text => rfl

end Complaints
end Cluster

namespace Probe

open Cluster Action

section Reports

variable {α : Type} {trace more : List Exchange} {outcome : Except Failure α}

/-- Whatever exchange there is a complaint about, it is the failure in which they all end. -/
def Reports
    (trace : List Exchange)
    (outcome : Except Failure α) : Prop :=
  ∀ exchange ∈ trace, ∀ cause, exchange.complaint? = some cause → outcome = .error (.of cause)

theorem reports_nil : Reports [] outcome :=
  fun _ present => absurd present List.not_mem_nil

/-- Exchanges that end well give no cause for complaint. -/
theorem Reports.quiet
    {value : α}
    (reports : Reports trace (.ok value : Except Failure α)) :
    ∀ exchange ∈ trace, exchange.complaint? = none := by
  intro exchange present
  cases complained : exchange.complaint? with
  | none => rfl
  | some cause => cases reports exchange present cause complained

/-- Exchanges without cause for complaint may end in any way. -/
theorem Reports.of_quiet
    (quiet : ∀ exchange ∈ trace, exchange.complaint? = none) :
    Reports trace outcome := by
  intro exchange present cause complained
  rw [quiet exchange present] at complained
  cases complained

/-- A failure is reported by whatever fails with it. -/
theorem Reports.of_error
    {β : Type}
    {failure : Failure}
    (reports : Reports trace (.error failure : Except Failure β)) :
    Reports trace (.error failure : Except Failure α) := by
  intro exchange present cause complained
  cases reports exchange present cause complained
  rfl

/-- Exchanges without cause for complaint may come first. -/
theorem Reports.append
    (quiet : ∀ exchange ∈ trace, exchange.complaint? = none)
    (reports : Reports more outcome) :
    Reports (trace ++ more) outcome := by
  intro exchange present
  rcases List.mem_append.mp present with earlier | later
  · exact Reports.of_quiet quiet exchange earlier
  · exact reports exchange later

theorem Reports.cons
    {exchange : Exchange}
    (quiet : exchange.complaint? = none)
    (reports : Reports trace outcome) :
    Reports (exchange :: trace) outcome := by
  have alone : ∀ other ∈ [exchange], other.complaint? = none := by simpa using quiet
  exact reports.append alone

/-- A single exchange is reported if its complaint is what follows from its outcome. -/
theorem reports_singleton
    {call : Call}
    {reply : Outcome call.Reply}
    (reported : ∀ cause, Exchange.complaint? ⟨call, reply⟩ = some cause →
      outcome = .error (.of cause)) :
    Reports [⟨call, reply⟩] outcome := by
  intro exchange present
  rw [List.mem_singleton.mp present]
  exact reported

/-- The last exchange of a part that fails because of it is reported. -/
theorem reports_requested
    {call : Call}
    {reply : Outcome call.Reply}
    {failure : Failure}
    (failed : requested call reply = .error failure) :
    Reports [⟨call, reply⟩] (.error failure : Except Failure α) := by
  refine reports_singleton fun cause complained => ?_
  rw [requested_of_complaint complained] at failed
  cases failed
  rfl

theorem reports_requestedIfFound
    {call : Call}
    {reply : Outcome call.Reply}
    {failure : Failure}
    (tolerant : call.method.toleratesAbsence = true)
    (failed : requestedIfFound call reply = .error failure) :
    Reports [⟨call, reply⟩] (.error failure : Except Failure α) := by
  refine reports_singleton fun cause complained => ?_
  rw [requestedIfFound_of_complaint tolerant complained] at failed
  cases failed
  rfl

/-- There is no cause for complaint about something that is gone. -/
theorem complaint?_of_isGone
    {call : Call}
    {reply : Outcome call.Reply}
    (tolerant : call.method.toleratesAbsence = true)
    (gone : reply.IsGone) :
    Exchange.complaint? ⟨call, reply⟩ = none := by
  cases complained : Exchange.complaint? ⟨call, reply⟩ with
  | none => rfl
  | some cause =>
      have failed := requestedIfFound_of_complaint tolerant complained
      exact (not_isGone_of_requestedIfFound failed gone).elim

/-- A poll reports what its answers mean. -/
theorem PollRun.reports
    {call : Call}
    {meaning : Meaning α call}
    {late : Cause}
    (run : PollRun call meaning late trace outcome)
    (reported : ∀ reply cause, Exchange.complaint? ⟨call, reply⟩ = some cause →
      meaning reply = .error (.of cause)) :
    Reports trace outcome := by
  -- An answer that means nothing yet is none to complain about.
  have quiet {reply : Outcome call.Reply} (pending : meaning reply = .ok none) :
      Exchange.complaint? ⟨call, reply⟩ = none := by
    cases complained : Exchange.complaint? ⟨call, reply⟩ with
    | none => rfl
    | some cause =>
        rw [reported reply cause complained] at pending
        cases pending
  induction run with
  | cancelled => exact reports_nil
  | impasse => exact reports_nil
  | found wanted =>
      refine reports_singleton fun cause complained => ?_
      rw [reported _ cause complained] at wanted
      cases wanted
  | failed broken =>
      refine reports_singleton fun cause complained => ?_
      rw [reported _ cause complained] at broken
      cases broken
      rfl
  | late pending => exact Reports.cons (quiet pending) reports_nil
  | again pending rest inductionHypothesis => exact inductionHypothesis.cons (quiet pending)

/-- A poll ends with a fault only if one of its answers means that. -/
theorem PollRun.crashes_of_foreign
    {call : Call}
    {meaning : Meaning α call}
    {late : Cause}
    {fault : Foreign}
    (run : PollRun call meaning late trace (.error (.foreign fault)))
    (faulty : ∀ reply, meaning reply = .error (.foreign fault) → reply.crashes = true) :
    ∃ exchange ∈ trace, exchange.outcome.crashes = true := by
  rcases run.failure_cases rfl with
    cancelled | ⟨reason, impasse⟩ | isLate | ⟨reply, present, broken⟩
  · cases cancelled
  · cases impasse
  · cases isLate
  · exact ⟨_, present, faulty reply broken⟩

end Reports

section Runs

variable {checker : Checker} {claim : Claim} {job : Job} {trace : List Exchange}

/-- A poll of a job reports what is complained about. -/
theorem success_of_complaint
    {namespaceName name : String}
    {reply : Outcome (Call.readJobStatus namespaceName name).Reply}
    {cause : Cause}
    (complained : Exchange.complaint? ⟨.readJobStatus namespaceName name, reply⟩ = some cause) :
    success namespaceName name reply = .error (.of cause) := by
  rw [success, requested_of_complaint complained]

/-- A poll of a volume reports what is complained about. -/
theorem absence_of_complaint
    {volume : String}
    {reply : Outcome (Call.readVolume volume).Reply}
    {cause : Cause}
    (complained : Exchange.complaint? ⟨.readVolume volume, reply⟩ = some cause) :
    absence volume reply = .error (.of cause) := by
  rw [absence, requestedIfFound_of_complaint rfl complained]

theorem crashes_of_absence
    {volume : String}
    {reply : Outcome (Call.readVolume volume).Reply}
    {fault : Foreign}
    (meant : absence volume reply = .error (.foreign fault)) :
    reply.crashes = true := by
  unfold absence at meant
  split at meant
  · cases meant
  · cases meant
  · rename_i failed
    cases meant
    exact crashes_of_requestedIfFound failed

theorem WaitRun.reports
    {namespaceName name : String}
    {outcome : Except Failure (Option String)}
    (run : WaitRun namespaceName name trace outcome) :
    Reports trace outcome := by
  have polled
      {polls : List Exchange}
      {ending : Except Failure Unit}
      (wait : PollRun (.readJobStatus namespaceName name) (success namespaceName name)
        (.jobTimeout name) polls ending) :
      Reports polls ending :=
    wait.reports fun _ _ complained => success_of_complaint complained
  cases run with
  | unfinished wait => exact (polled wait).of_error
  | unlisted wait failed => exact .append (polled wait).quiet (reports_requested failed)
  | podless wait => exact .append (polled wait).quiet (.cons rfl reports_nil)
  | listed wait => exact .append (polled wait).quiet (.cons rfl reports_nil)

/-- A measurement fails for what there is to complain about. -/
theorem MeasureRun.reports
    {basePath : Text}
    {outcome : Except Failure Sample}
    (run : MeasureRun checker claim job basePath trace outcome) :
    Reports trace outcome := by
  -- Both creations went well in all cases but the first two.
  have created
      {waits : List Exchange}
      {ending : Except Failure Sample}
      (rest : Reports waits ending) :
      Reports (claimCreated checker claim :: jobCreated checker job :: waits) ending :=
    .cons rfl (.cons rfl rest)
  cases run with
  | claimRefused failed => exact reports_requested failed
  | jobRefused failed => exact .cons rfl (reports_requested failed)
  | podless wait => exact created wait.reports.of_error
  | usageUnread wait failed =>
      exact created (.append wait.reports.quiet (reports_requested failed))
  | mountsUnread wait failed =>
      exact created (.append wait.reports.quiet (.cons rfl (reports_requested failed)))
  | reported wait =>
      exact created (.append wait.reports.quiet (.cons rfl (.cons rfl reports_nil)))

theorem ReclaimRun.reports
    {reference : Reference}
    {outcome : Except Failure Unit}
    (run : ReclaimRun reference trace outcome) :
    Reports trace outcome := by
  cases run with
  | unlisted failed => exact reports_requested failed
  | kept failed => exact .cons rfl (reports_requestedIfFound rfl failed)
  | unbound gone noVolume => exact .cons rfl (.cons (complaint?_of_isGone rfl gone) reports_nil)
  | bound gone first wait =>
      refine .cons rfl (.cons (complaint?_of_isGone rfl gone) ?_)
      exact wait.reports fun _ _ complained => absence_of_complaint complained

/-- A cleanup fails for what there is to complain about. -/
theorem CleanupRun.reports
    {outcome : Except Failure Unit}
    (run : CleanupRun checker claim job trace outcome) :
    Reports trace outcome := by
  cases run with
  | jobKept failed => exact reports_requestedIfFound rfl failed
  | jobGone gone rest => exact .cons (complaint?_of_isGone rfl gone) rest.reports

theorem ReclaimRun.crashes_of_foreign
    {reference : Reference}
    {fault : Foreign}
    (run : ReclaimRun reference trace (.error (.foreign fault))) :
    ∃ exchange ∈ trace, exchange.outcome.crashes = true := by
  cases run with
  | unlisted failed => exact ⟨_, List.mem_singleton_self _, crashes_of_requested failed⟩
  | kept failed =>
      exact ⟨_, List.mem_cons_of_mem _ (List.mem_singleton_self _),
        crashes_of_requestedIfFound failed⟩
  | bound gone first wait =>
      obtain ⟨exchange, present, crashes⟩ :=
        wait.crashes_of_foreign fun _ meant => crashes_of_absence meant
      exact ⟨exchange, by simp [present], crashes⟩

/-- A cleanup ends with a fault only if one of its calls broke off. -/
theorem CleanupRun.crashes_of_foreign
    {fault : Foreign}
    (run : CleanupRun checker claim job trace (.error (.foreign fault))) :
    ∃ exchange ∈ trace, exchange.outcome.crashes = true := by
  cases run with
  | jobKept failed => exact ⟨_, List.mem_singleton_self _, crashes_of_requestedIfFound failed⟩
  | jobGone gone rest =>
      obtain ⟨exchange, present, crashes⟩ := rest.crashes_of_foreign
      exact ⟨exchange, List.mem_cons_of_mem _ present, crashes⟩

end Runs

end Probe
end Headroom
