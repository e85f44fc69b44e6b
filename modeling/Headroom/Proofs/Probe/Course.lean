import Headroom.Proofs.Probe.Findings

/-!
# The course of a survey

A survey that ends with findings has read the storage class once and before anything
else, and has listed the volumes next, but only if no reservation was given.  Then it
has visited each node of its list in turn, with that base path and that reservation,
and its findings tell of these visits.
-/

namespace Headroom
namespace Probe

open Cluster Action

/-- The exchanges of a survey that ends with findings, in the order in which they were made, and
what they have to do with the findings. -/
structure Course
    (checker : Checker)
    (nodes : List String)
    (reserved : Option Reservation)
    (world : World)
    (findings : Findings)
    (after : World) where
  storageClass : Cluster.StorageClass
  basePath : Text
  /-- The exchanges by which the reservation was found out, if it was not given. -/
  listing : List Exchange
  amount : Reservation
  /-- The world in which the first visit begins. -/
  begun : World
  made : List Visit
  begun_history_eq :
    begun.history =
      world.history ++
        ⟨.readStorageClass checker.destinationClass, .answered storageClass⟩ :: listing
  basePath_eq :
    StorageClass.basePath checker.limits (storageClass.annotations.getD []) = .ok basePath
  listed : ListingRun checker reserved listing (.ok amount)
  listing_calls : listing.map (·.call) = if reserved.isSome then [] else [.listVolumes]
  after_history_eq : after.history = begun.history ++ made.flatMap Visit.trace
  made_eq : made = visits checker amount basePath nodes begun
  nodes_eq : made.map (·.node) = nodes
  checked : ∀ one ∈ made, one = visit checker amount basePath one.node one.before
  /-- The storage class is not read again. -/
  read_once :
    ∀ exchange ∈ listing ++ made.flatMap Visit.trace,
      exchange.call.method ≠ .readStorageClass
  decided : ∀ one ∈ made, one.IsDecided
  /-- A node that is rejected is read, and that is all. -/
  rejected_only_read :
    ∀ one ∈ made, one.isSchedulable = false →
      one.trace.map (·.call) = [.readNode one.node]
  accounts : Accounts made findings

/-- Visits do not read the storage class. -/
theorem method_ne_of_mem_visits
    {checker : Checker}
    {reserved : Reservation}
    {basePath : Text}
    {nodes : List String}
    {world : World} :
    ∀ exchange ∈ (visits checker reserved basePath nodes world).flatMap Visit.trace,
      exchange.call.method ≠ .readStorageClass := by
  intro exchange present
  obtain ⟨made, visited, traced⟩ := List.mem_flatMap.mp present
  rw [visits_checked checker reserved basePath nodes world made visited] at traced
  obtain ⟨-, run⟩ := checkRun_visit checker reserved basePath made.node made.before
  cases run with
  | given probe => exact probe.method_ne_readStorageClass exchange traced

/-- A decided visit that finds a mark on its node has only read that. -/
theorem Visit.IsDecided.calls_eq
    {one : Visit}
    (decided : one.IsDecided)
    (unschedulable : one.isSchedulable = false) :
    one.trace.map (·.call) = [.readNode one.node] := by
  cases decided with
  | checked schedulable ended named =>
      rw [schedulable] at unschedulable
      cases unschedulable
  | rejected onlyRead carried ended => rw [onlyRead]; rfl

/-- Whatever its nodes, its reservation and its way of checking them are, a survey that ends with
findings has taken its course. -/
theorem survey_findings_traced
    (checker : Checker)
    (nodes : List String)
    (reserved : Option Reservation)
    (atOnce : Bool)
    {world after : World}
    {findings : Findings}
    (ran : (checker.survey nodes reserved atOnce).run world = (.ok findings, after)) :
    Nonempty (Course checker nodes reserved world findings after) := by
  obtain ⟨basePath, amount, begun, opened⟩ := exists_opened_of_survey_ok ran
  obtain ⟨trace, follows, run⟩ := conforms_opening checker nodes reserved world
  rw [opened] at follows run
  cases run with
  | @opened storageClass _ listing _ found listed =>
  obtain ⟨collected, -, left⟩ := run_survey_of_opening atOnce opened
  rw [ran] at collected left
  obtain ⟨decided, accounts⟩ := accounts_of_collect collected.symm
  obtain ⟨later, all, grown⟩ := run_surveyAll checker amount basePath nodes begun
  have after_eq : after = later := (left findings rfl).trans (by rw [all])
  exact ⟨{
    storageClass, basePath, listing, amount, begun
    made := visits checker amount basePath nodes begun
    begun_history_eq := follows.history_eq
    basePath_eq := found
    listed
    listing_calls := listed.calls_eq
    after_history_eq := by rw [after_eq, grown.history_eq]
    made_eq := rfl
    nodes_eq := visits_map_node checker amount basePath nodes begun
    checked := visits_checked checker amount basePath nodes begun
    read_once := by
      intro exchange present
      rcases List.mem_append.mp present with listing | visiting
      · rw [listed.call_eq exchange listing]
        exact nofun
      · exact method_ne_of_mem_visits exchange visiting
    decided
    rejected_only_read := fun one visited => (decided one visited).calls_eq
    accounts }⟩

theorem survey_findings_traced_mixed :
    ∃ after,
      mixedSurvey true =
          (.ok [("node", { node := "node", free := 38, hasSpace := true })], after) ∧
        Nonempty
          (Course plainChecker ["node", "other", "node"] (some (.bytes 1)) (.start mixedScript)
            [("node", { node := "node", free := 38, hasSpace := true })] after) := by
  have ended :
      (mixedSurvey true).1 =
        .ok [("node", { node := "node", free := 38, hasSpace := true })] := by
    decide +kernel
  have ran :
      mixedSurvey true =
        (.ok [("node", { node := "node", free := 38, hasSpace := true })],
          (mixedSurvey true).2) := by
    rw [← ended, Prod.eta]
  exact ⟨_, ran, survey_findings_traced plainChecker ["node", "other", "node"]
    (some (.bytes 1)) true ran⟩

end Probe
end Headroom
