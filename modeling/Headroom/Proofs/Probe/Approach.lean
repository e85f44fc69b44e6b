import Headroom.Proofs.Probe.Complaints
import Headroom.Proofs.Probe.Protocol

/-!
# The approach to a measurement

Before a check measures, it finds out the base path and whether the node takes new
pods, and it draws the names of its claim and its job.  A check is this approach, the
measurement with its cleanup, and the judgement of the sample.

No claim is created on the way, and the measurement begins only if there was nothing
to complain about.
-/

namespace Headroom
namespace Probe

open Cluster Action

/-- A base path is known only if the storage class was read. -/
theorem answered_of_resolved
    {checker : Checker}
    {reply : Outcome Cluster.StorageClass}
    {path : Text}
    (went : resolved checker reply = .ok path) :
    ∃ storageClass, reply = .answered storageClass ∧
      StorageClass.basePath checker.limits (storageClass.annotations.getD []) = .ok path := by
  cases reply with
  | answered storageClass =>
      refine ⟨storageClass, rfl, ?_⟩
      dsimp only [resolved] at went
      cases read : StorageClass.basePath checker.limits (storageClass.annotations.getD []) with
      | ok other =>
          rw [read] at went
          cases went
          rfl
      | error error =>
          rw [read] at went
          cases went
  | refused status reason =>
      dsimp only [resolved] at went
      split at went <;> cases went
  | unreachable reason => cases went
  | crashed text => cases went

section Approach

variable (checker : Checker) (node : String)

/-- What is found out and drawn before a measurement under a base path: that the node takes new
pods, the claim and the job. -/
def approachUnder (path : Text) : Action (Text × Claim × Job) := do
  Checker.requireSchedulable (← Action.request (.readNode node))
  let (claim, job) ← checker.prepare node path
  return (path, claim, job)

/-- What is found out and drawn before a measurement, with the base path looked up if it is not
given. -/
def approach (basePath : Option Text) : Action (Text × Claim × Job) :=
  match basePath with
  | some path => approachUnder checker node path
  | none => do approachUnder checker node (← checker.basePath)

/-- A check in its steps. -/
theorem checkNode_eq
    (reserved : Reservation)
    (basePath : Option Text) :
    checker.checkNode node reserved basePath = (do
      let (path, claim, job) ← approach checker node basePath
      let sample ←
        thenAlways (checker.measure claim job path) (checker.cleanup claim job)
      Checker.judge node reserved sample) := by
  cases basePath <;> simp [Checker.checkNode, Checker.probe, approach, approachUnder]

/-- The exchanges before a measurement create no claim, and there is no complaint about them if the
measurement begins. -/
structure IsPreliminary
    {α : Type}
    (trace : List Exchange)
    (outcome : Except Failure α) : Prop where
  creates_no_claim : ∀ exchange ∈ trace, exchange.call.method ≠ .createClaim
  quiet : ∀ value, outcome = .ok value → ∀ exchange ∈ trace, exchange.complaint? = none

theorem conforms_approachUnder
    (path : Text)
    (world : World) :
    Conforms (approachUnder checker node path) world IsPreliminary := by
  refine conforms_request_bind ?_ ?_
  · intro reply failure failed
    exact ⟨by simp, nofun⟩
  intro described
  unfold Checker.requireSchedulable
  cases Checker.unschedulableMarker? described with
  | some marker => exact conforms_fail_bind ⟨by simp, nofun⟩
  | none =>
      rw [pure_bind]
      refine conforms_prepare_bind checker node _ fun after => conforms_pure ⟨by simp, ?_⟩
      rintro parts - exchange present
      rw [List.mem_singleton.mp present]
      rfl

/-- Whatever a check does before its measurement is preliminary to that. -/
theorem conforms_approach
    (basePath : Option Text)
    (world : World) :
    Conforms (approach checker node basePath) world IsPreliminary := by
  cases basePath with
  | some path => exact conforms_approachUnder checker node path world
  | none =>
      refine (conforms_basePath checker world).bind ?_ ?_
      · rintro trace failure ⟨reply, rfl, ended⟩
        exact ⟨by simp, nofun⟩
      rintro trace path after - ⟨reply, rfl, ended⟩
      obtain ⟨storageClass, rfl, -⟩ := answered_of_resolved ended.symm
      refine (conforms_approachUnder checker node path after).mono ?_
      rintro more outcome ⟨creates_no_claim, quiet⟩
      refine ⟨by simpa using creates_no_claim, ?_⟩
      intro parts went exchange present
      rcases List.mem_cons.mp present with rfl | later
      · rfl
      · exact quiet parts went exchange later

end Approach

section Checks

variable
  {checker : Checker}
  {node : String}
  {basePath : Option Text}
  {world begun : World}
  {path : Text}
  {claim : Claim}
  {job : Job}

/-- A check that is ready to measure ends as its measurement and its cleanup settle it, and a
sample is judged then. -/
theorem run_checkNode_of_approach
    (reserved : Reservation)
    (approached :
      (approach checker node basePath).run world = (.ok (path, claim, job), begun)) :
    (checker.checkNode node reserved basePath).run world =
      let measured := (checker.measure claim job path).run begun
      let cleaned := (checker.cleanup claim job).run measured.2
      match settle measured.1 cleaned.1 with
      | .ok sample => (Checker.judge node reserved sample).run cleaned.2
      | .error failure => (.error failure, cleaned.2) := by
  rw [checkNode_eq, run_bind, approached]
  dsimp only
  rw [run_bind, run_thenAlways]
  cases settle ((checker.measure claim job path).run begun).1
    ((checker.cleanup claim job).run ((checker.measure claim job path).run begun).2).1 <;> rfl

/-- The history of a check that is ready to measure grows by a measurement and a cleanup. -/
theorem history_checkNode_of_approach
    (reserved : Reservation)
    (approached :
      (approach checker node basePath).run world = (.ok (path, claim, job), begun)) :
    ((checker.checkNode node reserved basePath).run world).2.history =
      ((checker.cleanup claim job).run
        ((checker.measure claim job path).run begun).2).2.history := by
  rw [run_checkNode_of_approach reserved approached]
  dsimp only
  split
  · rename_i sample settled
    obtain ⟨trace, follows, rfl, -⟩ := conforms_judge node reserved sample
      ((checker.cleanup claim job).run ((checker.measure claim job path).run begun).2).2
    rw [follows.history_eq, List.append_nil]
  · rfl

/-- Two suffixes are drawn on the way to a measurement under a base path. -/
theorem drawn_of_approachUnder
    {parts : Text × Claim × Job}
    (approached : (approachUnder checker node path).run world = (.ok parts, begun)) :
    begun.drawn = world.drawn + 2 := by
  unfold approachUnder Checker.requireSchedulable at approached
  rw [run_bind, run_request] at approached
  cases answered : requested (.readNode node) (world.respond (.readNode node)).outcome with
  | error failure =>
      rw [answered] at approached
      cases approached
  | ok described =>
      rw [answered] at approached
      dsimp only at approached
      cases marks : Checker.unschedulableMarker? described with
      | some marker =>
          rw [marks] at approached
          cases approached
      | none =>
          rw [marks] at approached
          cases approached
          rfl

/-- Two suffixes are drawn on the way to a measurement. -/
theorem drawn_of_approach
    {parts : Text × Claim × Job}
    (approached : (approach checker node basePath).run world = (.ok parts, begun)) :
    begun.drawn = world.drawn + 2 := by
  cases basePath with
  | some path => exact drawn_of_approachUnder approached
  | none =>
      unfold approach at approached
      dsimp only at approached
      rw [run_bind, run_basePath] at approached
      cases found : resolved checker
          (world.respond (.readStorageClass checker.destinationClass)).outcome with
      | error failure =>
          rw [found] at approached
          cases approached
      | ok path =>
          rw [found] at approached
          have drawn := drawn_of_approachUnder approached
          exact drawn

/-- A check that has created a claim was ready to measure, after exchanges about which there was
no complaint. -/
theorem exists_approach_of_created
    {reserved : Reservation}
    {trace : List Exchange}
    (grown :
      ((checker.checkNode node reserved basePath).run world).2.history = world.history ++ trace)
    (created : ∃ exchange ∈ trace, exchange.call.method = .createClaim) :
    ∃ path claim job begun opening,
      (approach checker node basePath).run world = (.ok (path, claim, job), begun) ∧
        Follows world opening begun ∧
        ∀ exchange ∈ opening, exchange.complaint? = none := by
  obtain ⟨opening, opened, preliminary⟩ := conforms_approach checker node basePath world
  cases approached : (approach checker node basePath).run world with
  | mk parts begun =>
  rw [approached] at opened preliminary
  match parts with
  | .ok (path, claim, job) =>
      exact ⟨path, claim, job, begun, opening, rfl, opened, preliminary.quiet _ rfl⟩
  | .error failure =>
      -- The check went no further, so that the claim would be a preliminary.
      rw [checkNode_eq, run_bind, approached] at grown
      have same : trace = opening :=
        List.append_cancel_left (grown.symm.trans opened.history_eq)
      obtain ⟨exchange, present, creates⟩ := created
      rw [same] at present
      exact (preliminary.creates_no_claim exchange present creates).elim

/-- A check that has created a claim has drawn two suffixes. -/
theorem drawn_le_of_created
    {reserved : Reservation}
    {trace : List Exchange}
    (grown :
      ((checker.checkNode node reserved basePath).run world).2.history = world.history ++ trace)
    (created : ∃ exchange ∈ trace, exchange.call.method = .createClaim) :
    world.drawn + 2 ≤ ((checker.checkNode node reserved basePath).run world).2.drawn := by
  obtain ⟨path, claim, job, begun, opening, approached, -⟩ :=
    exists_approach_of_created grown created
  obtain ⟨measuring, measured, -⟩ := conforms_measure checker claim job path begun
  obtain ⟨cleaning, cleaned, -⟩ := conforms_cleanup checker claim job
    ((checker.measure claim job path).run begun).2
  rw [← drawn_of_approach approached, run_checkNode_of_approach reserved approached]
  refine Nat.le_trans (measured.trans cleaned).drawn_le ?_
  dsimp only
  split
  · rename_i sample settled
    obtain ⟨judging, judged, -⟩ := conforms_judge node reserved sample
      ((checker.cleanup claim job).run ((checker.measure claim job path).run begun).2).2
    exact judged.drawn_le
  · exact Nat.le_refl _

end Checks
end Probe
end Headroom
