import Headroom.Proofs.Probe.Approach
import Headroom.Proofs.Probe.Survey

/-!
# The visits of a survey

A survey begins by finding out the base path and the reservation.  Then it visits
nodes: each visit is a check of one node, in the world that the visit before it has
left.  The visits of a list of nodes are computed here from the world in which the
first one begins.

A survey at once makes all visits, and a survey in turn those up to the first
failure.  Either way its outcome is what is collected from the visits of all nodes.
-/

namespace Headroom
namespace Probe

open Cluster Action

/-- A check that is made of a node in a survey, and the worlds around it. -/
structure Visit where
  node : String
  before : World
  ending : Except Failure Verdict
  after : World

namespace Visit

/-- The exchanges of a visit. -/
def trace (visit : Visit) : List Exchange :=
  visit.after.history.drop visit.before.history.length

/-- What a survey makes of a visit. -/
def result (visit : Visit) : String × Except Failure (Option Verdict) :=
  (visit.node, passedOver visit.ending)

end Visit

section Visits

variable (checker : Checker) (reserved : Reservation) (basePath : Text)

/-- The visit of a node in a world. -/
def visit
    (node : String)
    (world : World) : Visit :=
  { node
    before := world
    ending := ((checker.checkNode node reserved (some basePath)).run world).1
    after := ((checker.checkNode node reserved (some basePath)).run world).2 }

/-- The visits of nodes one after the other, each in the world that the one before it left. -/
def visits : List String → World → List Visit
  | [], _ => []
  | node :: others, world =>
    visit checker reserved basePath node world ::
      visits others ((checker.surveyNode reserved basePath node).run world).2

theorem visits_nil (world : World) : visits checker reserved basePath [] world = [] := rfl

theorem visits_cons
    (node : String)
    (others : List String)
    (world : World) :
    visits checker reserved basePath (node :: others) world =
      visit checker reserved basePath node world ::
        visits checker reserved basePath others
          ((checker.surveyNode reserved basePath node).run world).2 := rfl

/-- There is one visit for each node of the list. -/
theorem visits_map_node
    (nodes : List String)
    (world : World) :
    (visits checker reserved basePath nodes world).map (·.node) = nodes := by
  induction nodes generalizing world with
  | nil => rfl
  | cons node others inductionHypothesis =>
      rw [visits_cons, List.map_cons, inductionHypothesis]
      rfl

/-- Every visit is a check of its node, with the same reservation and the same base path. -/
theorem visits_checked
    (nodes : List String)
    (world : World) :
    ∀ made ∈ visits checker reserved basePath nodes world,
      made = visit checker reserved basePath made.node made.before := by
  induction nodes generalizing world with
  | nil => simp [visits_nil]
  | cons node others inductionHypothesis =>
      intro made present
      rw [visits_cons, List.mem_cons] at present
      rcases present with rfl | later
      · rfl
      · exact inductionHypothesis _ made later

/-- The exchanges of a visit are those by which it adds to the history, and they are a word of the
grammar of checks. -/
theorem checkRun_visit
    (node : String)
    (world : World) :
    let made := visit checker reserved basePath node world
    Follows world made.trace made.after ∧
      CheckRun checker node reserved (nextClaim checker node world) (nextJob checker node world)
        (some basePath) made.trace made.ending := by
  obtain ⟨trace, follows, run⟩ := conforms_checkNode checker node reserved world (some basePath)
  have trace_eq : (visit checker reserved basePath node world).trace = trace := by
    rw [Visit.trace, visit, follows.history_eq, List.drop_left]
  dsimp only
  rw [trace_eq]
  exact ⟨follows, run⟩

/-- Checking a node in a survey is a visit, after which at most a record is written. -/
theorem run_surveyNode
    (node : String)
    (world : World) :
    let made := visit checker reserved basePath node world
    ∃ records,
      (checker.surveyNode reserved basePath node).run world =
        (passedOver made.ending, { made.after with records }) := by
  dsimp only [visit]
  rw [Checker.surveyNode, run_bind, run_attempt]
  rcases (checker.checkNode node reserved (some basePath)).run world with ⟨ending, after⟩
  match ending with
  | .ok verdict => exact ⟨_, rfl⟩
  | .error (.check (.single cause) earlier) =>
      dsimp only [passedOver]
      split
      · exact ⟨_, rfl⟩
      · exact ⟨_, rfl⟩
  | .error (.check (.cleanup causes) earlier) => exact ⟨_, rfl⟩
  | .error (.foreign fault) => exact ⟨_, rfl⟩
  | .error (.impasse reason) => exact ⟨_, rfl⟩

/-- What checking a node in a survey adds to the history is the visit. -/
theorem follows_surveyNode
    (node : String)
    (world : World) :
    Follows world (visit checker reserved basePath node world).trace
      ((checker.surveyNode reserved basePath node).run world).2 := by
  obtain ⟨records, ran⟩ := run_surveyNode checker reserved basePath node world
  obtain ⟨follows, -⟩ := checkRun_visit checker reserved basePath node world
  rw [ran]
  exact { follows with }

/-- Checking all nodes is making all visits. -/
theorem run_surveyAll
    (nodes : List String)
    (world : World) :
    ∃ after,
      (checker.surveyAll reserved basePath nodes).run world =
          (.ok ((visits checker reserved basePath nodes world).map Visit.result), after) ∧
        Follows world ((visits checker reserved basePath nodes world).flatMap Visit.trace)
          after := by
  induction nodes generalizing world with
  | nil => exact ⟨world, rfl, .refl world⟩
  | cons node others inductionHypothesis =>
      obtain ⟨records, ran⟩ := run_surveyNode checker reserved basePath node world
      have grown := follows_surveyNode checker reserved basePath node world
      rw [visits_cons, ran]
      rw [ran] at grown
      obtain ⟨later, rest, evenGrown⟩ := inductionHypothesis
        { (visit checker reserved basePath node world).after with records }
      refine ⟨later, ?_, ?_⟩
      · exact run_surveyAll_cons ran rest
      · rw [List.flatMap_cons]
        exact grown.trans evenGrown

/-- Checking all nodes leaves the world as checking the others after the first one does. -/
theorem world_surveyAll_cons
    (node : String)
    (others : List String)
    (world : World) :
    ((checker.surveyAll reserved basePath (node :: others)).run world).2 =
      ((checker.surveyAll reserved basePath others).run
        ((checker.surveyNode reserved basePath node).run world).2).2 := by
  obtain ⟨after, rest, -⟩ := run_surveyAll checker reserved basePath others
    ((checker.surveyNode reserved basePath node).run world).2
  rw [run_surveyAll_cons rfl rest, rest]

/-- Nodes that are checked in turn are checked as all nodes up to one of them are at once, and as
all nodes are if that goes well. -/
theorem exists_asked_of_surveyInTurn
    (findings : Findings)
    (nodes : List String)
    (world : World) :
    ∃ asked, asked <+: nodes ∧
      (checker.surveyInTurn reserved basePath findings nodes).run world =
        (surveyAtOnce checker reserved basePath findings asked).run world ∧
      ∀ collected after,
        (checker.surveyInTurn reserved basePath findings nodes).run world =
          (.ok collected, after) → asked = nodes := by
  induction nodes generalizing findings world with
  | nil => exact ⟨[], List.prefix_refl _, rfl, fun _ _ _ => rfl⟩
  | cons node others inductionHypothesis =>
      cases ran : (checker.surveyNode reserved basePath node).run world with
      | mk outcome after =>
      rw [Checker.surveyInTurn, run_bind, ran]
      cases outcome with
      | error failure =>
          refine ⟨[node], List.prefix_append [node] others, ?_, fun _ _ ended => by cases ended⟩
          rw [run_surveyAtOnce findings (run_surveyAll_cons ran rfl)]
          rfl
      | ok verdict =>
          obtain ⟨asked, begins, same, all⟩ :=
            inductionHypothesis (findings.putIfFound node verdict) after
          obtain ⟨later, rest, -⟩ := run_surveyAll checker reserved basePath asked after
          refine ⟨node :: asked, List.cons_prefix_cons.mpr ⟨rfl, begins⟩, ?_, ?_⟩
          · dsimp only
            rw [same, run_surveyAtOnce _ rest, run_surveyAtOnce _ (run_surveyAll_cons ran rest)]
            rfl
          · intro collected last ended
            rw [all collected last ended]

end Visits

section Opening

variable (checker : Checker)

/-- What a survey finds out before its first visit: the base path and the reservation. -/
def opening
    (nodes : List String)
    (reserved : Option Reservation) : Action (Text × Reservation) := do
  let basePath ← checker.basePath
  let amount ← reservationFor checker reserved
  announce nodes amount basePath
  return (basePath, amount)

/-- A survey is its opening, and then its visits in turn or at once. -/
theorem survey_eq_opening
    (nodes : List String)
    (reserved : Option Reservation)
    (atOnce : Bool) :
    checker.survey nodes reserved atOnce = (do
      let (basePath, amount) ← opening checker nodes reserved
      if atOnce then surveyAtOnce checker amount basePath [] nodes
      else checker.surveyInTurn amount basePath [] nodes) := by
  rw [survey_eq]
  simp [opening]

/-- The exchanges by which a survey finds out its reservation, unless that is given. -/
inductive ListingRun : Option Reservation → List Exchange → Except Failure Reservation → Prop
  | given
      {amount : Reservation} :
      ListingRun (some amount) [] (.ok amount)
  | summed
      {volumes : List Volume}
      {total : Int}
      (sum :
        Checker.totalBytes (volumes.filterMap (Checker.storageOf? checker.sourceClass)) =
          .ok total) :
      ListingRun none [⟨.listVolumes, .answered volumes⟩] (.ok (.bytes total))
  | unsummed
      {reply : Outcome (List Volume)}
      {failure : Failure} :
      ListingRun none [⟨.listVolumes, reply⟩] (.error failure)

theorem conforms_requiredSpace (world : World) :
    Conforms checker.requiredSpace world fun trace outcome =>
      ListingRun checker none trace (outcome.map .bytes) := by
  unfold Checker.requiredSpace
  refine conforms_request_bind (fun reply failure failed => .unsummed) ?_
  intro volumes
  cases sum : Checker.totalBytes (volumes.filterMap (Checker.storageOf? checker.sourceClass)) with
  | error error => exact conforms_throw .unsummed
  | ok total =>
      dsimp only
      cases Numeral.text? total with
      | some text => exact conforms_note_bind fun noted => conforms_pure (.summed sum)
      | none => exact conforms_pure (.summed sum)

theorem conforms_reservationFor
    (reserved : Option Reservation)
    (world : World) :
    Conforms (reservationFor checker reserved) world (ListingRun checker reserved) := by
  cases reserved with
  | some amount => exact conforms_pure .given
  | none =>
      refine (conforms_requiredSpace checker world).bind ?_ ?_
      · rintro trace failure run
        exact run
      · rintro trace total after - run
        refine conforms_pure ?_
        rw [List.append_nil]
        exact run

/-- An announcement is no exchange. -/
theorem conforms_announce
    (nodes : List String)
    (amount : Reservation)
    (basePath : Text)
    (world : World) :
    Conforms (announce nodes amount basePath) world fun trace outcome =>
      trace = [] ∧ outcome = .ok () := by
  unfold announce
  cases amount.text? with
  | some text => exact ⟨[], { Follows.refl world with }, rfl, rfl⟩
  | none => exact conforms_pure ⟨rfl, rfl⟩

/-- The exchanges of the opening of a survey and its end. -/
inductive OpeningRun
    (reserved : Option Reservation) :
    List Exchange → Except Failure (Text × Reservation) → Prop
  | unresolved
      {reply : Outcome Cluster.StorageClass}
      {failure : Failure} :
      OpeningRun reserved [⟨.readStorageClass checker.destinationClass, reply⟩] (.error failure)
  | unlisted
      {reply : Outcome Cluster.StorageClass}
      {listing : List Exchange}
      {failure : Failure}
      (listed : ListingRun checker reserved listing (.error failure)) :
      OpeningRun reserved (⟨.readStorageClass checker.destinationClass, reply⟩ :: listing)
        (.error failure)
  | opened
      {storageClass : Cluster.StorageClass}
      {basePath : Text}
      {listing : List Exchange}
      {amount : Reservation}
      (found :
        StorageClass.basePath checker.limits (storageClass.annotations.getD []) = .ok basePath)
      (listed : ListingRun checker reserved listing (.ok amount)) :
      OpeningRun reserved
        (⟨.readStorageClass checker.destinationClass, .answered storageClass⟩ :: listing)
        (.ok (basePath, amount))

theorem conforms_opening
    (nodes : List String)
    (reserved : Option Reservation)
    (world : World) :
    Conforms (opening checker nodes reserved) world (OpeningRun checker reserved) := by
  unfold opening
  refine (conforms_basePath checker world).bind ?_ ?_
  · rintro trace failure ⟨reply, rfl, ended⟩
    exact .unresolved
  rintro trace basePath after - ⟨reply, rfl, ended⟩
  refine (conforms_reservationFor checker reserved after).bind ?_ ?_
  · rintro listing failure listed
    exact .unlisted listed
  rintro listing amount later - listed
  refine (conforms_announce nodes amount basePath later).bind ?_ ?_
  · rintro nothing failure ⟨-, impossible⟩
    cases impossible
  · rintro nothing announced last - ⟨rfl, -⟩
    obtain ⟨storageClass, rfl, found⟩ := answered_of_resolved ended.symm
    refine conforms_pure ?_
    rw [List.append_nil, List.append_nil]
    exact .opened found listed

variable
  {checker}
  {nodes : List String}
  {reserved : Option Reservation}
  {world begun : World}

/-- The volumes are listed once if there is no reservation, and not at all if there is one. -/
theorem ListingRun.calls_eq
    {listing : List Exchange}
    {outcome : Except Failure Reservation}
    (run : ListingRun checker reserved listing outcome) :
    listing.map (·.call) = if reserved.isSome then [] else [.listVolumes] := by
  cases run <;> rfl

/-- Listing the volumes is all that is done for a reservation. -/
theorem ListingRun.call_eq
    {listing : List Exchange}
    {outcome : Except Failure Reservation}
    (run : ListingRun checker reserved listing outcome) :
    ∀ exchange ∈ listing, exchange.call = .listVolumes := by
  cases run <;> simp

/-- A survey whose opening fails goes no further. -/
theorem run_survey_of_opening_error
    {failure : Failure}
    (atOnce : Bool)
    (opened : (opening checker nodes reserved).run world = (.error failure, begun)) :
    (checker.survey nodes reserved atOnce).run world = (.error failure, begun) := by
  rw [survey_eq_opening, run_bind, opened]

/-- After its opening a survey ends with what is collected from all visits, having made those of
the nodes up to one of them, and of all nodes if it went well. -/
theorem run_survey_of_opening
    {basePath : Text}
    {amount : Reservation}
    (atOnce : Bool)
    (opened : (opening checker nodes reserved).run world = (.ok (basePath, amount), begun)) :
    let ran := (checker.survey nodes reserved atOnce).run world
    ran.1 = Checker.collect [] ((visits checker amount basePath nodes begun).map Visit.result) ∧
      (∃ asked, asked <+: nodes ∧
        ran.2 = ((checker.surveyAll amount basePath asked).run begun).2) ∧
      ∀ findings, ran.1 = .ok findings →
        ran.2 = ((checker.surveyAll amount basePath nodes).run begun).2 := by
  obtain ⟨after, all, -⟩ := run_surveyAll checker amount basePath nodes begun
  have together := run_surveyAtOnce [] all
  dsimp only
  rw [survey_eq_opening, run_bind, opened]
  dsimp only
  cases atOnce with
  | true =>
      rw [if_pos rfl, together, all]
      exact ⟨rfl, ⟨nodes, List.prefix_refl _, by rw [all]⟩, fun _ _ => rfl⟩
  | false =>
      rw [if_neg nofun]
      have agrees := agrees_surveyInTurn checker amount basePath [] nodes begun
      rw [together] at agrees
      obtain ⟨asked, begins, same, -⟩ :=
        exists_asked_of_surveyInTurn checker amount basePath [] nodes begun
      obtain ⟨last, checked, -⟩ := run_surveyAll checker amount basePath asked begun
      refine ⟨agrees.outcome_eq.symm, ⟨asked, begins, ?_⟩, ?_⟩
      · rw [same, run_surveyAtOnce [] checked, checked]
      · intro findings ended
        rw [all, agrees.world_eq ended]

/-- A survey that ends with findings has been opened. -/
theorem exists_opened_of_survey_ok
    {atOnce : Bool}
    {findings : Findings}
    {after : World}
    (ran : (checker.survey nodes reserved atOnce).run world = (.ok findings, after)) :
    ∃ basePath amount begun,
      (opening checker nodes reserved).run world = (.ok (basePath, amount), begun) := by
  cases opened : (opening checker nodes reserved).run world with
  | mk parts begun =>
      match parts with
      | .ok (basePath, amount) => exact ⟨basePath, amount, begun, rfl⟩
      | .error failure =>
          rw [run_survey_of_opening_error atOnce opened] at ran
          cases ran

end Opening
end Probe
end Headroom
