import Headroom.Proofs.Probe.Protocol
import Headroom.Proofs.Probe.Termination

/-!
# Surveys in turn and at once

A survey at once begins all checks before any outcome is looked at; a survey in
turn stops at the first failure.  Both run the same checks in the same order, in the
same worlds, until there is a failure.  After it the survey at once makes further
exchanges, which change neither its outcome nor what came before.
-/

namespace Headroom
namespace Probe

open Cluster Action

/-- What a survey makes of the end of one check. -/
def passedOver : Except Failure Verdict → Except Failure (Option Verdict)
  | .ok verdict => .ok (some verdict)
  | .error (.check (.single cause) earlier) =>
    if cause.kind = .schedulability then .ok none else .error (.check (.single cause) earlier)
  | .error failure => .error failure

section Conformance

variable (checker : Checker) (reserved : Reservation) (basePath : Text)

/-- Checking a node in a survey is checking it, whatever comes of that. -/
theorem conforms_surveyNode (node : String) (world : World) :
    Conforms (checker.surveyNode reserved basePath node) world fun trace outcome =>
      ∃ ending,
        CheckRun checker node reserved (nextClaim checker node world)
          (nextJob checker node world) (some basePath) trace ending ∧
          outcome = passedOver ending := by
  unfold Checker.surveyNode
  refine (conforms_checkNode checker node reserved world (some basePath)).attempt.bind ?_ ?_
  · rintro trace failure ⟨result, impossible, _⟩
    cases impossible
  rintro trace result after - ⟨_, ended, run⟩
  cases ended
  match result, run with
  | .ok verdict, run => exact conforms_pure ⟨_, by rwa [List.append_nil], rfl⟩
  | .error (.check (.single cause) earlier), run =>
      dsimp only
      split
      · rename_i skipped
        refine conforms_note_bind fun noted => conforms_pure ⟨_, by rwa [List.append_nil], ?_⟩
        rw [passedOver, if_pos skipped]
      · rename_i counted
        refine conforms_throw ⟨_, by rwa [List.append_nil], ?_⟩
        rw [passedOver, if_neg counted]
  | .error (.check (.cleanup causes) earlier), run =>
      exact conforms_throw ⟨_, by rwa [List.append_nil], rfl⟩
  | .error (.foreign fault), run => exact conforms_throw ⟨_, by rwa [List.append_nil], rfl⟩
  | .error (.impasse reason), run => exact conforms_throw ⟨_, by rwa [List.append_nil], rfl⟩

/-- Checking all nodes never fails, and gives each node its outcome. -/
theorem conforms_surveyAll (nodes : List String) (world : World) :
    Conforms (checker.surveyAll reserved basePath nodes) world fun _ result =>
      ∃ outcomes, result = .ok outcomes ∧ outcomes.map (·.1) = nodes := by
  induction nodes generalizing world with
  | nil => exact conforms_pure ⟨[], rfl, rfl⟩
  | cons node others inductionHypothesis =>
      unfold Checker.surveyAll
      refine (conforms_surveyNode checker reserved basePath node world).attempt.bind ?_ ?_
      · rintro trace failure ⟨result, impossible, _⟩
        cases impossible
      rintro trace outcome after - -
      refine (inductionHypothesis after).bind ?_ ?_
      · rintro more failure ⟨outcomes, impossible, _⟩
        cases impossible
      · rintro more outcomes later - ⟨_, ended, names⟩
        cases ended
        exact conforms_pure ⟨_, rfl, by rw [List.map_cons, names]⟩

end Conformance

/-- The reservation that is given, or else the space that is in use. -/
def reservationFor (checker : Checker) : Option Reservation → Action Reservation
  | some reserved => pure reserved
  | none => Reservation.bytes <$> checker.requiredSpace

/-- What a survey records before it begins. -/
def announce
    (nodes : List String)
    (reserved : Reservation)
    (basePath : Text) : Action Unit :=
  match reserved.text? with
  | some amount =>
    record .info
      (Text.ofString ("Checking " ++ toString nodes.length ++ " node(s) for " ++ amount ++
        " bytes under ") ++ basePath)
  | none => pure ()

/-- The findings of all nodes, none of which is looked at before all are checked. -/
def surveyAtOnce
    (checker : Checker)
    (reserved : Reservation)
    (basePath : Text)
    (findings : Findings)
    (nodes : List String) : Action Findings := do
  match Checker.collect findings (← checker.surveyAll reserved basePath nodes) with
  | .ok findings => return findings
  | .error failure => throw failure

/-- A survey in its steps. -/
theorem survey_eq
    (checker : Checker)
    (nodes : List String)
    (reserved : Option Reservation)
    (atOnce : Bool) :
    checker.survey nodes reserved atOnce = (do
      let basePath ← checker.basePath
      let reserved ← reservationFor checker reserved
      announce nodes reserved basePath
      if atOnce then surveyAtOnce checker reserved basePath [] nodes
      else checker.surveyInTurn reserved basePath [] nodes) := by
  unfold Checker.survey
  refine bind_congr fun basePath => ?_
  cases reserved
  all_goals
    refine bind_congr fun reserved => ?_
    unfold announce
    dsimp only
    cases reserved.text? <;> rfl

section AtOnce

variable
  {checker : Checker}
  {reserved : Reservation}
  {basePath : Text}
  {node : String}
  {nodes others : List String}
  {world after later : World}
  {outcomes : List (String × Except Failure (Option Verdict))}

/-- There are outcomes for all nodes, and the history has grown meanwhile. -/
theorem exists_run_surveyAll
    (checker : Checker)
    (reserved : Reservation)
    (basePath : Text)
    (nodes : List String)
    (world : World) :
    ∃ outcomes after,
      (checker.surveyAll reserved basePath nodes).run world = (.ok outcomes, after) ∧
        world.history <+: after.history := by
  obtain ⟨trace, follows, outcomes, went, -⟩ :=
    conforms_surveyAll checker reserved basePath nodes world
  exact ⟨outcomes, _, Prod.ext went rfl, follows.history_prefix⟩

/-- The first node has its outcome before the others have theirs. -/
theorem run_surveyAll_cons
    {outcome : Except Failure (Option Verdict)}
    (first : (checker.surveyNode reserved basePath node).run world = (outcome, after))
    (rest : (checker.surveyAll reserved basePath others).run after = (.ok outcomes, later)) :
    (checker.surveyAll reserved basePath (node :: others)).run world =
      (.ok ((node, outcome) :: outcomes), later) := by
  rw [Checker.surveyAll, run_bind, run_attempt, first]
  dsimp only
  rw [run_bind, rest]
  rfl

/-- A survey at once ends as its collected outcomes do. -/
theorem run_surveyAtOnce
    (findings : Findings)
    (ran : (checker.surveyAll reserved basePath nodes).run world = (.ok outcomes, after)) :
    (surveyAtOnce checker reserved basePath findings nodes).run world =
      (Checker.collect findings outcomes, after) := by
  rw [surveyAtOnce, run_bind, ran]
  dsimp only
  cases Checker.collect findings outcomes <;> rfl

end AtOnce

/-- Two runs agree if they succeed alike; if the first one fails, the second fails alike, after
all exchanges of the first and perhaps others. -/
structure Agrees
    {α : Type}
    (first second : Except Failure α × World) : Prop where
  of_ok : ∀ value after, first = (.ok value, after) → second = (.ok value, after)
  of_error :
    ∀ failure after, first = (.error failure, after) →
      ∃ later, second = (.error failure, later) ∧ after.history <+: later.history

/-- A run agrees with itself. -/
theorem Agrees.refl
    {α : Type}
    (result : Except Failure α × World) :
    Agrees result result :=
  { of_ok := fun _ _ ran => ran
    of_error := fun _ after ran => ⟨after, ran, List.prefix_refl _⟩ }

/-- Runs that agree have the same outcome. -/
theorem Agrees.outcome_eq
    {α : Type}
    {first second : Except Failure α × World}
    (agrees : Agrees first second) :
    second.1 = first.1 := by
  rcases first with ⟨failure | value, after⟩
  · obtain ⟨later, ran, -⟩ := agrees.of_error failure after rfl
    rw [ran]
  · rw [agrees.of_ok value after rfl]

/-- Runs that agree and succeed leave the same world. -/
theorem Agrees.world_eq
    {α : Type}
    {first second : Except Failure α × World}
    (agrees : Agrees first second)
    {value : α}
    (ended : first.1 = .ok value) :
    second.2 = first.2 := by
  rw [agrees.of_ok value first.2 (Prod.ext ended rfl)]

/-- Runs that begin alike agree if they agree from there on. -/
theorem agrees_bind
    {α β : Type}
    {action : Action α}
    {first second : α → Action β}
    {world : World}
    (rest : ∀ value after, Agrees ((first value).run after) ((second value).run after)) :
    Agrees ((action >>= first).run world) ((action >>= second).run world) := by
  rw [run_bind, run_bind]
  rcases action.run world with ⟨failure | value, after⟩
  · exact .refl _
  · exact rest value after

/-- Nodes that are checked in turn end as nodes that are checked at once. -/
theorem agrees_surveyInTurn
    (checker : Checker)
    (reserved : Reservation)
    (basePath : Text)
    (findings : Findings)
    (nodes : List String)
    (world : World) :
    Agrees
      ((checker.surveyInTurn reserved basePath findings nodes).run world)
      ((surveyAtOnce checker reserved basePath findings nodes).run world) := by
  induction nodes generalizing findings world with
  | nil => exact .refl _
  | cons node others inductionHypothesis =>
      cases ran : (checker.surveyNode reserved basePath node).run world with
      | mk outcome after =>
          obtain ⟨outcomes, later, rest, grown⟩ :=
            exists_run_surveyAll checker reserved basePath others after
          rw [run_surveyAtOnce findings (run_surveyAll_cons ran rest), Checker.surveyInTurn,
            run_bind, ran]
          cases outcome with
          | ok verdict =>
              -- The other nodes are checked with the same findings in the same world.
              have agrees := inductionHypothesis (findings.putIfFound node verdict) after
              rw [run_surveyAtOnce _ rest] at agrees
              exact agrees
          | error failure =>
              refine ⟨nofun, ?_⟩
              rintro _ _ ⟨⟩
              exact ⟨later, rfl, grown⟩

section Impasses

variable {impasse : Impasse} {checker : Checker}

theorem avoids_surveyNode
    (ruledOut : checker.RulesOut impasse)
    (reserved : Reservation)
    (basePath : Text)
    (node : String) :
    Avoids impasse (checker.surveyNode reserved basePath node) := by
  refine (avoids_checkNode ruledOut node reserved (some basePath)).attempt_bind ?_
  intro outcome finite
  match outcome with
  | .ok verdict => exact avoids_pure (some verdict)
  | .error (.check (.single cause) earlier) =>
      dsimp only
      split
      · exact (avoids_note _ _).bind fun _ => avoids_pure none
      · exact avoids_throw nofun
  | .error (.check (.cleanup causes) earlier) => exact avoids_throw nofun
  | .error (.foreign fault) => exact avoids_throw nofun
  | .error (.impasse reason) => exact avoids_throw fun same => finite (congrArg _ same)

/-- Nodes are checked until none is left. -/
theorem avoids_surveyInTurn
    (ruledOut : checker.RulesOut impasse)
    (reserved : Reservation)
    (basePath : Text)
    (findings : Findings)
    (nodes : List String) :
    Avoids impasse (checker.surveyInTurn reserved basePath findings nodes) := by
  induction nodes generalizing findings with
  | nil => exact avoids_pure findings
  | cons node others inductionHypothesis =>
      exact (avoids_surveyNode ruledOut reserved basePath node).bind fun verdict =>
        inductionHypothesis (findings.putIfFound node verdict)

theorem avoids_requiredSpace (checker : Checker) : Avoids impasse checker.requiredSpace := by
  refine (avoids_request .listVolumes).bind fun volumes => ?_
  cases Checker.totalBytes (volumes.filterMap (Checker.storageOf? checker.sourceClass)) with
  | error error => exact avoids_throw nofun
  | ok total =>
      dsimp only
      cases Numeral.text? total with
      | some text => exact (avoids_note _ _).bind fun _ => avoids_pure total
      | none => exact avoids_pure total

theorem avoids_reservationFor (checker : Checker) (reserved : Option Reservation) :
    Avoids impasse (reservationFor checker reserved) := by
  cases reserved with
  | some amount => exact avoids_pure amount
  | none => exact (avoids_requiredSpace checker).map _

theorem avoids_announce
    (nodes : List String)
    (reserved : Reservation)
    (basePath : Text) :
    Avoids impasse (announce nodes reserved basePath) := by
  unfold announce
  cases reserved.text? with
  | some amount => exact avoids_record _ _
  | none => exact avoids_pure ()

/-- A survey in turn avoids what its waits are kept from. -/
theorem avoids_survey
    (ruledOut : checker.RulesOut impasse)
    (nodes : List String)
    (reserved : Option Reservation) :
    Avoids impasse (checker.survey nodes reserved false) := by
  rw [survey_eq]
  refine (avoids_basePath checker).bind fun basePath => ?_
  refine (avoids_reservationFor checker reserved).bind fun amount => ?_
  refine (avoids_announce nodes amount basePath).bind fun _ => ?_
  exact avoids_surveyInTurn ruledOut amount basePath [] nodes

end Impasses

/-- A survey at once ends as the survey in turn does, with the same verdicts in the same world or
with the same failure after all of its exchanges.  What the waits are kept from, neither of them
runs into: if the waits are bounded, neither has to wait for ever. -/
theorem survey_atOnce_agrees
    (checker : Checker)
    (nodes : List String)
    (reserved : Option Reservation)
    (world : World) :
    Agrees
        ((checker.survey nodes reserved false).run world)
        ((checker.survey nodes reserved true).run world) ∧
      ∀ impasse, checker.RulesOut impasse →
        Avoids impasse (checker.survey nodes reserved false) ∧
          ∀ amount basePath node, Avoids impasse (checker.surveyNode amount basePath node) := by
  refine ⟨?_, fun impasse ruledOut =>
    ⟨avoids_survey ruledOut nodes reserved, avoids_surveyNode ruledOut⟩⟩
  rw [survey_eq, survey_eq]
  refine agrees_bind fun basePath resolved => ?_
  refine agrees_bind fun amount given => ?_
  refine agrees_bind fun _ announced => ?_
  exact agrees_surveyInTurn checker amount basePath [] nodes announced

/-- A cluster with a node of which the check goes well, and with one that takes no new pods. -/
def mixedScript : Script :=
  { routes := fun
      | .readStorageClass =>
        [{ argument := none
           responses :=
            [.immediate (.answered ⟨some
              [("cas.openebs.io/config", some "- name: BasePath\n  value: /var")]⟩)] }]
      | .readNode =>
        [{ argument := some "other"
           responses :=
            [.immediate (.answered
              { metadata := none, taints := ["node.kubernetes.io/not-ready"] })] }]
      | .readLog =>
        [{ argument := some Container.usage.name
           responses := [.immediate (.answered "/dev/sda2 90 52 38 58% /data")] },
          { argument := some Container.mounts.name
            responses := [.immediate (.answered "/dev/sda2 / xfs defaults 1 1")] }]
      | _ => [] }

theorem mixedScript_isTimely : mixedScript.IsTimely := by
  intro method
  cases method <;> decide

theorem plainChecker_isBounded : plainChecker.IsBounded :=
  { job := ⟨⟨2, rfl, by decide⟩, 300, rfl⟩
    deletion := ⟨⟨2, rfl, by decide⟩, 300, rfl⟩ }

/-- What a survey of the two nodes comes to, one of them being asked for twice. -/
def mixedSurvey (atOnce : Bool) : Except Failure Findings × World :=
  (plainChecker.survey ["node", "other", "node"] (some (.bytes 1)) atOnce).run
    (.start mixedScript)

theorem survey_atOnce_agrees_mixed :
    plainChecker.IsBounded ∧ mixedScript.IsTimely ∧
      mixedSurvey true =
        (.ok [("node", { node := "node", free := 38, hasSpace := true })],
          (mixedSurvey false).2) ∧
      AvoidsIn .endless (plainChecker.survey ["node", "other", "node"] (some (.bytes 1)) false)
        (.start mixedScript) := by
  have ended :
      (mixedSurvey false).1 =
        .ok [("node", { node := "node", free := 38, hasSpace := true })] := by
    decide +kernel
  have ran :
      mixedSurvey false =
        (.ok [("node", { node := "node", free := 38, hasSpace := true })],
          (mixedSurvey false).2) := by
    rw [← ended, Prod.eta]
  have agreement :=
    survey_atOnce_agrees plainChecker ["node", "other", "node"] (some (.bytes 1))
      (.start mixedScript)
  refine ⟨plainChecker_isBounded, mixedScript_isTimely, ?_, ?_⟩
  · exact agreement.1.of_ok _ _ ran
  · exact (agreement.2 .endless plainChecker_isBounded.rulesOut).1 _ mixedScript_isTimely

end Probe
end Headroom
