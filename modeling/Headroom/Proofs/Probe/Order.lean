import Headroom.Proofs.Probe.Findings
import Headroom.Proofs.Probe.Foresight

/-!
# The order of the nodes

A survey in turn goes as a survey at once of the nodes up to its first failure.  So
there is one account of both: what is collected from visits that are made.

In a cluster whose script is settled and anonymous every visit ends as it is foreseen.
So it can be said beforehand whether a survey has findings and what they are; it
depends on which nodes are in the list, and not on their order.
-/

namespace Headroom
namespace Probe

open Cluster Action

section Asked

variable
  {checker : Checker}
  {reserved : Reservation}
  {basePath : Text}
  {nodes : List String}
  {given : Option Reservation}
  {world begun : World}

/-- After its opening a survey is the survey at once of all nodes up to one of them, and of all
nodes if it goes well. -/
theorem exists_asked
    (atOnce : Bool)
    (opened : (opening checker nodes given).run world = (.ok (basePath, reserved), begun)) :
    ∃ asked, asked <+: nodes ∧
      (checker.survey nodes given atOnce).run world =
        (surveyAtOnce checker reserved basePath [] asked).run begun ∧
      ∀ collected after,
        (checker.survey nodes given atOnce).run world = (.ok collected, after) →
          asked = nodes := by
  rw [survey_eq_opening, run_bind, opened]
  cases atOnce with
  | true => exact ⟨nodes, List.prefix_refl _, rfl, fun _ _ _ => rfl⟩
  | false => exact exists_asked_of_surveyInTurn checker reserved basePath [] nodes begun

end Asked

section Foreseen

variable
  {script : Script}
  {checker : Checker}
  {reserved : Reservation}
  {basePath : Text}
  {nodes : List String}
  {world begun : World}

/-- Visits of an undisturbed world begin in undisturbed worlds. -/
theorem undisturbed_of_mem_visits
    (undisturbed : Undisturbed script world) :
    ∀ made ∈ visits checker reserved basePath nodes world, Undisturbed script made.before := by
  induction nodes generalizing world with
  | nil => simp [visits_nil]
  | cons node others inductionHypothesis =>
      intro made visited
      rw [visits_cons, List.mem_cons] at visited
      rcases visited with rfl | later
      · exact undisturbed
      · have follows := follows_surveyNode checker reserved basePath node world
        exact inductionHypothesis (undisturbed.of_follows follows) made later

/-- Every visit ends as it is foreseen for its node. -/
theorem toOption_passedOver_of_mem_visits
    (settled : script.IsSettled)
    (anonymous : script.IsAnonymous)
    (undisturbed : Undisturbed script world)
    (unbound : LeavesUnbound script
      ((visits checker reserved basePath nodes world).flatMap Visit.trace)) :
    ∀ made ∈ visits checker reserved basePath nodes world,
      (passedOver made.ending).toOption = foreseen script checker made.node reserved basePath := by
  intro made visited
  have unboundToo : LeavesUnbound script made.trace := fun exchange present =>
    unbound exchange (List.mem_flatMap.mpr ⟨made, visited, present⟩)
  have undisturbedToo := undisturbed_of_mem_visits undisturbed made visited
  rw [visits_checked checker reserved basePath nodes world made visited] at unboundToo ⊢
  exact toOption_passedOver_visit settled anonymous undisturbedToo unboundToo

/-- A survey ends as it is foreseen: it has findings if no check is foreseen to fail, and these are
the verdicts that are foreseen. -/
structure EndsAsForeseen
    (script : Script)
    (checker : Checker)
    (reserved : Reservation)
    (basePath : Text)
    (nodes : List String)
    (outcome : Except Failure Findings) : Prop where
  ok_iff :
    (∃ findings, outcome = .ok findings) ↔
      ∀ node ∈ nodes, ∃ found, foreseen script checker node reserved basePath = some found
  find?_eq_some_iff :
    ∀ findings, outcome = .ok findings → ∀ name verdict,
      findings.find? name = some verdict ↔
        name ∈ nodes ∧ foreseen script checker name reserved basePath = some (some verdict)

/-- A visit has a finding exactly if its survey takes over a verdict. -/
theorem Visit.finding?_eq_some_iff
    {visit : Visit}
    {name : String}
    {verdict : Verdict} :
    visit.finding? = some (name, verdict) ↔
      visit.node = name ∧ (passedOver visit.ending).toOption = some (some verdict) := by
  have taken : (passedOver visit.ending).toOption = some (some verdict) ↔
      visit.ending = .ok verdict := by
    rw [← passedOver_eq_some_iff]
    cases passedOver visit.ending <;> simp [Except.toOption]
  rw [taken, Visit.finding?]
  cases visit.ending with
  | error failure => simp
  | ok other => simp

/-- What is collected from visits that end as foreseen is as foreseen for their nodes. -/
theorem find?_of_collect
    {made : List Visit}
    (ends : ∀ visit ∈ made,
      (passedOver visit.ending).toOption = foreseen script checker visit.node reserved basePath)
    {findings : Findings}
    (collected : Checker.collect [] (made.map Visit.result) = .ok findings)
    (name : String)
    (verdict : Verdict) :
    findings.find? name = some verdict ↔
      name ∈ made.map (·.node) ∧
        foreseen script checker name reserved basePath = some (some verdict) := by
  have listed (name : String) (verdict : Verdict) :
      (name, verdict) ∈ made.filterMap Visit.finding? ↔
        name ∈ made.map (·.node) ∧
          foreseen script checker name reserved basePath = some (some verdict) := by
    simp only [List.mem_filterMap, Visit.finding?_eq_some_iff, List.mem_map]
    constructor
    · rintro ⟨visit, visited, rfl, taken⟩
      exact ⟨⟨visit, visited, rfl⟩, ends visit visited ▸ taken⟩
    · rintro ⟨⟨visit, visited, rfl⟩, taken⟩
      exact ⟨visit, visited, rfl, (ends visit visited).trans taken⟩
  obtain ⟨-, rfl⟩ := collect_eq_ok_iff.mp collected
  rw [NameTable.find?_putAll_nil_eq_some_iff_mem, listed]
  intro other first second isFirst isSecond
  have same := ((listed other first).mp isFirst).2.symm.trans ((listed other second).mp isSecond).2
  simpa using same

/-- What is collected from visits of nodes up to one of them, and of all nodes if it goes well, is
as foreseen if each visit ends so. -/
theorem endsAsForeseen_of_collect
    {made : List Visit}
    {asked : List String}
    (begins : asked <+: nodes)
    (names : made.map (·.node) = asked)
    (ends : ∀ visit ∈ made,
      (passedOver visit.ending).toOption = foreseen script checker visit.node reserved basePath)
    (all : ∀ findings,
      Checker.collect [] (made.map Visit.result) = .ok findings → asked = nodes) :
    EndsAsForeseen script checker reserved basePath nodes
      (Checker.collect [] (made.map Visit.result)) := by
  constructor
  · constructor
    · rintro ⟨findings, ended⟩ node listed
      obtain ⟨wentOn, -⟩ := collect_eq_ok_iff.mp ended
      rw [← all findings ended, ← names, List.mem_map] at listed
      obtain ⟨visit, visited, rfl⟩ := listed
      obtain ⟨found, taken⟩ := wentOn visit visited
      exact ⟨found, by rw [← ends visit visited, taken]; rfl⟩
    · intro decided
      refine ⟨_, collect_eq_ok_iff.mpr ⟨?_, rfl⟩⟩
      intro visit visited
      have listed : visit.node ∈ nodes := by
        refine begins.subset ?_
        rw [← names]
        exact List.mem_map_of_mem visited
      obtain ⟨found, foresees⟩ := decided visit.node listed
      have taken := (ends visit visited).trans foresees
      cases passed : passedOver visit.ending with
      | ok other => exact ⟨other, rfl⟩
      | error failure =>
          rw [passed] at taken
          cases taken
  · intro findings ended name verdict
    rw [find?_of_collect ends ended, names, all findings ended]

/-- A survey that is opened in an undisturbed world ends as it is foreseen. -/
theorem endsAsForeseen_survey
    (settled : script.IsSettled)
    (anonymous : script.IsAnonymous)
    (undisturbed : Undisturbed script world)
    {given : Option Reservation}
    (atOnce : Bool)
    (opened : (opening checker nodes given).run world = (.ok (basePath, reserved), begun))
    (unbound : LeavesUnbound script
      (((checker.survey nodes given atOnce).run world).2.history.drop world.history.length)) :
    EndsAsForeseen script checker reserved basePath nodes
      ((checker.survey nodes given atOnce).run world).1 := by
  obtain ⟨before, openedBy, -⟩ := conforms_opening checker nodes given world
  rw [opened] at openedBy
  obtain ⟨asked, begins, same, all⟩ := exists_asked atOnce opened
  obtain ⟨after, checkedAll, follows⟩ := run_surveyAll checker reserved basePath asked begun
  have ran := same.trans (run_surveyAtOnce [] checkedAll)
  rw [ran] at unbound all ⊢
  have grown := (openedBy.trans follows).history_eq
  have unboundAsked : LeavesUnbound script
      ((visits checker reserved basePath asked begun).flatMap Visit.trace) := by
    intro exchange present
    refine unbound exchange ?_
    rw [grown, List.drop_left]
    exact List.mem_append_right before present
  have ends := toOption_passedOver_of_mem_visits settled anonymous
    (undisturbed.of_follows openedBy) unboundAsked
  have names := visits_map_node checker reserved basePath asked begun
  exact endsAsForeseen_of_collect begins names ends fun findings ended =>
    all findings after (Prod.ext ended rfl)

end Foreseen

/-- Surveys have the same verdicts if both fail, or if every name has the same verdict by the
findings of both. -/
inductive SameVerdicts : Except Failure Findings → Except Failure Findings → Prop
  | failed
      (first second : Failure) :
      SameVerdicts (.error first) (.error second)
  | found
      {first second : Findings}
      (same : ∀ name, first.find? name = second.find? name) :
      SameVerdicts (.ok first) (.ok second)

section Permutations

variable {checker : Checker} {nodes others : List String}

/-- If the same is foreseen for two surveys of the same nodes, they have the same verdicts. -/
theorem EndsAsForeseen.sameVerdicts
    {script : Script}
    {reserved : Reservation}
    {basePath : Text}
    {first second : Except Failure Findings}
    (firstEnds : EndsAsForeseen script checker reserved basePath nodes first)
    (secondEnds : EndsAsForeseen script checker reserved basePath others second)
    (same : ∀ node, node ∈ nodes ↔ node ∈ others) :
    SameVerdicts first second := by
  have succeed : (∃ findings, first = .ok findings) ↔ ∃ findings, second = .ok findings := by
    rw [firstEnds.ok_iff, secondEnds.ok_iff]
    simp only [same]
  match first, second with
  | .error failure, .error other => exact .failed failure other
  | .ok findings, .error other =>
      obtain ⟨_, impossible⟩ := succeed.mp ⟨findings, rfl⟩
      cases impossible
  | .error failure, .ok findings =>
      obtain ⟨_, impossible⟩ := succeed.mpr ⟨findings, rfl⟩
      cases impossible
  | .ok findings, .ok others =>
      refine .found fun name => Option.ext fun verdict => ?_
      rw [firstEnds.find?_eq_some_iff findings rfl, secondEnds.find?_eq_some_iff others rfl, same]

/-- What a survey finds out before its first visit does not depend on the order of its nodes. -/
theorem opening_eq_of_length_eq
    (same : nodes.length = others.length)
    (given : Option Reservation) :
    opening checker nodes given = opening checker others given := by
  unfold opening announce
  rw [same]

/-- Whether checks are made in turn or at once makes no difference to how a survey ends. -/
theorem outcome_survey_eq
    (nodes : List String)
    (given : Option Reservation)
    (atOnce : Bool)
    (world : World) :
    ((checker.survey nodes given atOnce).run world).1 =
      ((checker.survey nodes given false).run world).1 := by
  cases opened : (opening checker nodes given).run world with
  | mk parts begun =>
      match parts with
      | .error failure =>
          rw [run_survey_of_opening_error atOnce opened, run_survey_of_opening_error false opened]
      | .ok (basePath, amount) =>
          obtain ⟨ends, -⟩ := run_survey_of_opening atOnce opened
          obtain ⟨endsInTurn, -⟩ := run_survey_of_opening false opened
          exact ends.trans endsInTurn.symm

theorem survey_ne_impasse
    {impasse : Impasse}
    (ruledOut : checker.RulesOut impasse)
    (nodes : List String)
    (given : Option Reservation)
    (atOnce : Bool)
    {world : World}
    (timely : world.script.IsTimely) :
    ((checker.survey nodes given atOnce).run world).1 ≠ .error (.impasse impasse) := by
  rw [outcome_survey_eq]
  exact (avoids_survey ruledOut nodes given world timely).1

/-- The verdicts of a survey do not depend on the order of its nodes, if the script is settled and
anonymous, there is no cancellation, and no listed volume is bound to a claim that is created in
either order.  Neither survey runs into an impasse that its waits are kept from. -/
theorem survey_sameVerdicts_of_perm
    (checker : Checker)
    (reserved : Reservation)
    (atOnce : Bool)
    {nodes others : List String}
    (perm : nodes.Perm others)
    {world : World}
    (uncancelled : world.cancellation = .never)
    (settled : world.script.IsSettled)
    (anonymous : world.script.IsAnonymous)
    (unbound : ∀ listed ∈ [nodes, others],
      LeavesUnbound world.script
        (((checker.survey listed (some reserved) atOnce).run world).2.history.drop
          world.history.length)) :
    let first := ((checker.survey nodes (some reserved) atOnce).run world).1
    let second := ((checker.survey others (some reserved) atOnce).run world).1
    SameVerdicts first second ∧
      ∀ impasse, checker.RulesOut impasse → world.script.IsTimely →
        first ≠ .error (.impasse impasse) ∧ second ≠ .error (.impasse impasse) := by
  dsimp only
  refine ⟨?_, fun impasse ruledOut timely => ⟨?_, ?_⟩⟩
  · have undisturbed : Undisturbed world.script world :=
      { script_eq := rfl
        cancellation_eq := uncancelled }
    have sameOpening :
        opening checker nodes (some reserved) = opening checker others (some reserved) :=
      opening_eq_of_length_eq perm.length_eq (some reserved)
    cases opened : (opening checker nodes (some reserved)).run world with
    | mk parts begun =>
    have openedToo := opened
    rw [sameOpening] at openedToo
    match parts with
    | .error failure =>
        rw [run_survey_of_opening_error atOnce opened, run_survey_of_opening_error atOnce openedToo]
        exact .failed failure failure
    | .ok (basePath, amount) =>
        have firstEnds :=
          endsAsForeseen_survey settled anonymous undisturbed atOnce opened
            (unbound nodes (by simp))
        have secondEnds :=
          endsAsForeseen_survey settled anonymous undisturbed atOnce openedToo
            (unbound others (by simp))
        exact firstEnds.sameVerdicts secondEnds fun _ => perm.mem_iff
  · exact survey_ne_impasse ruledOut nodes (some reserved) atOnce timely
  · exact survey_ne_impasse ruledOut others (some reserved) atOnce timely

end Permutations

theorem mixedScript_isSettled : mixedScript.IsSettled := by
  intro method
  cases method <;> decide

theorem mixedScript_isAnonymous : mixedScript.IsAnonymous := by
  intro method ofProbe
  cases method with
  | createClaim => exact nofun
  | deleteClaim => exact nofun
  | createJob => exact nofun
  | readJobStatus => exact nofun
  | deleteJob => exact nofun
  | listPods => exact nofun
  | _ => cases ofProbe

/-- There are no volumes in that cluster. -/
theorem mixedScript_leavesUnbound (trace : List Exchange) : LeavesUnbound mixedScript trace := by
  intro exchange present namespaceName claim creates volumes listed
  cases listed
  exact nofun

theorem survey_sameVerdicts_of_perm_mixed :
    ["node", "other"].Perm ["other", "node"] ∧
      (World.start mixedScript).cancellation = .never ∧
      mixedScript.IsSettled ∧ mixedScript.IsAnonymous ∧
      SameVerdicts
        ((plainChecker.survey ["node", "other"] (some (.bytes 1)) false).run
          (.start mixedScript)).1
        ((plainChecker.survey ["other", "node"] (some (.bytes 1)) false).run
          (.start mixedScript)).1 := by
  have perm : ["node", "other"].Perm ["other", "node"] := .swap _ _ _
  have uncancelled : (World.start mixedScript).cancellation = .never := rfl
  obtain ⟨same, -⟩ :=
    survey_sameVerdicts_of_perm plainChecker (.bytes 1) false perm uncancelled
      mixedScript_isSettled mixedScript_isAnonymous fun _ _ => mixedScript_leavesUnbound _
  exact ⟨perm, uncancelled, mixedScript_isSettled, mixedScript_isAnonymous, same⟩

end Probe
end Headroom
