import Headroom.Proofs.Probe.Protocol
import Headroom.Proofs.Probe.Turns

/-!
# Which claims are deleted

The volumes are listed before a claim is deleted.  A claim whose turn has come is deleted
just if that went well, and it is deleted once; whatever comes after its deletion, and
whatever becomes of the other claims, makes no difference to it.

So the claims of a list are deleted one by one in their order, but for those for which
the volumes could not be listed.
-/

namespace Headroom
namespace Cluster

/-- The claim that an exchange is to delete. -/
def Exchange.deletedClaim? (exchange : Exchange) : Option Reference :=
  match exchange.call with
  | .deleteClaim claim => some claim
  | _ => none

/-- Whether an exchange has listed the volumes. -/
def Exchange.listsVolumes : Exchange → Bool
  | ⟨.listVolumes, .answered _⟩ => true
  | _ => false

end Cluster

namespace Probe

open Cluster Action

/-- Whether the volumes were listed in a turn. -/
def Turn.isListed (turn : Turn) : Bool :=
  turn.trace.any Exchange.listsVolumes

section Traces

variable {claim : Reference} {trace : List Exchange} {outcome : Except Failure Unit}

/-- Nothing is deleted while a volume is polled. -/
theorem PollRun.deletes_nothing
    {volume : String}
    {meaning : Meaning Unit (.readVolume volume)}
    {late : Cause}
    (run : PollRun (.readVolume volume) meaning late trace outcome) :
    trace.filterMap Exchange.deletedClaim? = [] := by
  refine List.filterMap_eq_nil_iff.mpr fun exchange polled => ?_
  rw [Exchange.deletedClaim?, run.call_eq polled]

/-- No volumes were listed if that was refused. -/
theorem listsVolumes_of_requested
    {reply : Outcome (List Volume)}
    {failure : Failure}
    (failed : requested .listVolumes reply = .error failure) :
    Exchange.listsVolumes ⟨.listVolumes, reply⟩ = false := by
  cases reply with
  | answered volumes => cases failed
  | refused status reason => rfl
  | unreachable reason => rfl
  | crashed text => rfl

/-- A claim is deleted just if the volumes are listed, and then once. -/
theorem ReclaimRun.deletions_eq (run : ReclaimRun claim trace outcome) :
    trace.filterMap Exchange.deletedClaim? =
      if trace.any Exchange.listsVolumes then [claim] else [] := by
  cases run with
  | unlisted failed => simp [Exchange.deletedClaim?, listsVolumes_of_requested failed]
  | kept failed => rfl
  | unbound gone noVolume => rfl
  | @bound volumes reply volume polled outcome gone first wait =>
      have deletion : Exchange.deletedClaim? ⟨.deleteClaim claim, reply⟩ = some claim := rfl
      rw [List.filterMap_cons_none rfl, List.filterMap_cons_some deletion, wait.deletes_nothing]
      rfl

/-- In turns one after the other, those claims are deleted for which the volumes are listed. -/
theorem deletions_turns
    {made : List Turn}
    (runs : ∀ turn ∈ made, ReclaimRun turn.claim turn.trace turn.ending) :
    (made.flatMap Turn.trace).filterMap Exchange.deletedClaim? =
      (made.filter Turn.isListed).map (·.claim) := by
  induction made with
  | nil => rfl
  | cons first others inductionHypothesis =>
      obtain ⟨run, rest⟩ := List.forall_mem_cons.mp runs
      have deletions_eq :
          first.trace.filterMap Exchange.deletedClaim? =
            if first.isListed then [first.claim] else [] :=
        run.deletions_eq
      rw [List.flatMap_cons, List.filterMap_append, deletions_eq, inductionHypothesis rest,
        List.filter_cons]
      cases first.isListed <;> rfl

end Traces

/-- In an orderly cluster, and unless the run is cancelled, every claim has its turn and is deleted
once in it, except if the volumes cannot be listed then. -/
theorem deleteClaims_deletes_listed
    (reclaimer : Reclaimer)
    (claims : List Reference)
    {world after : World}
    {outcome : Except Failure Unit}
    (orderly : world.script.NeverCrashes)
    (ran : (reclaimer.deleteClaims claims).run world = (outcome, after))
    (uncancelled : after.isCancelled = false)
    {trace : List Exchange}
    (grown : after.history = world.history ++ trace) :
    let made := turns reclaimer claims world
    trace = made.flatMap Turn.trace ∧
      trace.filterMap Exchange.deletedClaim? = (made.filter Turn.isListed).map (·.claim) ∧
      ((∀ reason, outcome ≠ .error (.impasse reason)) →
        made.map (·.claim) = claims ∧
          (trace.filterMap Exchange.deletedClaim? = claims ↔
            ∀ turn ∈ made, turn.isListed = true)) ∧
      ∀ impasse, RulesOut impasse reclaimer.pollInterval reclaimer.deletionTimeout →
        world.script.IsTimely → outcome ≠ .error (.impasse impasse) := by
  obtain ⟨rfl, rfl⟩ := Prod.ext_iff.mp ran
  have trace_eq : trace = (turns reclaimer claims world).flatMap Turn.trace :=
    trace_eq_turns grown
  have deletions_eq :
      trace.filterMap Exchange.deletedClaim? =
        ((turns reclaimer claims world).filter Turn.isListed).map (·.claim) := by
    rw [trace_eq]
    exact deletions_turns fun turn listed => (turns_run reclaimer claims world turn listed).2
  refine ⟨trace_eq, deletions_eq, ?_, ?_⟩
  · intro finite
    obtain ⟨all, -, -⟩ := turns_of_uncancelled orderly uncancelled finite
    refine ⟨all, ?_⟩
    rw [deletions_eq]
    constructor
    · intro same
      have length_eq := congrArg List.length (same.trans all.symm)
      rw [List.length_map, List.length_map] at length_eq
      exact List.length_filter_eq_length_iff.mp length_eq
    · intro listed
      rw [List.filter_eq_self.mpr listed]
      exact all
  · intro impasse ruledOut timely
    exact (avoids_deleteClaims ruledOut claims world timely).1

/-- Two claims that are to be deleted. -/
def temporaryClaims : List Reference :=
  [⟨some "pvc0", some defaultNamespace⟩, ⟨some "pvc1", some defaultNamespace⟩]

/-- A cluster in which volumes are not listed at first, but from the second time on. -/
def reluctantScript : Script :=
  { routes := fun
      | .listVolumes =>
        [{ argument := none
           responses :=
            [.immediate (.refused 500 (some "Internal Server Error")),
              .immediate (.answered [])] }]
      | _ => [] }

/-- What becomes of the claims in that cluster. -/
def reluctantRun : Except Failure Unit × World :=
  (plainChecker.reclaimer.deleteClaims temporaryClaims).run (.start reluctantScript)

theorem reluctantScript_neverCrashes : reluctantScript.NeverCrashes := by
  intro method
  cases method <;> decide

theorem deleteClaims_deletes_listed_reluctant :
    let made := turns plainChecker.reclaimer temporaryClaims (.start reluctantScript)
    reluctantScript.NeverCrashes ∧
      reluctantRun.2.isCancelled = false ∧
      made.map Turn.isListed = [false, true] ∧
      reluctantRun.2.history.filterMap Exchange.deletedClaim? =
        (made.filter Turn.isListed).map (·.claim) ∧
      made.map (·.claim) = temporaryClaims := by
  have uncancelled : reluctantRun.2.isCancelled = false := by decide +kernel
  have reported :
      reluctantRun.1 =
        .error (.of (.requestFailed .listVolumes (some "Internal Server Error"))) := by
    decide +kernel
  have ran :
      (plainChecker.reclaimer.deleteClaims temporaryClaims).run (.start reluctantScript) =
        (reluctantRun.1, reluctantRun.2) := rfl
  have grown :
      reluctantRun.2.history =
        (World.start reluctantScript).history ++ reluctantRun.2.history := by
    rw [World.history_start, List.nil_append]
  obtain ⟨-, deletions_eq, finished, -⟩ :=
    deleteClaims_deletes_listed plainChecker.reclaimer temporaryClaims
      reluctantScript_neverCrashes ran uncancelled grown
  exact ⟨reluctantScript_neverCrashes, uncancelled, by decide +kernel, deletions_eq,
    (finished (by rw [reported]; nofun)).1⟩

/-- A claim is not deleted if the volumes cannot be listed in its turn. -/
theorem deleteClaims_skips_claim_reluctant :
    reluctantRun.2.calls =
        [.listVolumes, .listVolumes, .deleteClaim ⟨some "pvc1", some defaultNamespace⟩] ∧
      reluctantRun.2.history.filterMap Exchange.deletedClaim? ≠ temporaryClaims := by
  decide +kernel

end Probe
end Headroom
