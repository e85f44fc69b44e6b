import Headroom.Proofs.Preflight
import Headroom.Proofs.Probe.Obliviousness
import Mathlib.Data.List.Forall2

/-!
# What a reservation decides

A reservation is announced at the beginning of a survey and compared with each sample
at the end of its check.  The announcement and the comparison leave nothing behind but
records, at which no check looks.

So two surveys of the same nodes with different reservations go the same way, up to
the decisions whether there is enough space.  If there is enough for the larger
reservation, there is enough for the smaller one.
-/

namespace Headroom

/-- A verdict eases another one if both are about the same free bytes of the same node, and it
finds enough space whenever the other one does. -/
structure Verdict.Eases (eased strict : Verdict) : Prop where
  node_eq : eased.node = strict.node
  free_eq : eased.free = strict.free
  hasSpace_of_hasSpace : strict.hasSpace = true → eased.hasSpace = true

/-- What is left free for the larger one of two reservations is left free for the smaller one. -/
theorem Sample.covers_of_le
    {sample : Sample}
    {smaller larger : Int}
    (le : smaller ≤ larger)
    (covered : sample.covers larger = true) :
    sample.covers smaller = true := by
  rw [covers_iff] at covered ⊢
  obtain ⟨nonzero, fits⟩ := covered
  exact ⟨nonzero, Int.le_trans le fits⟩

namespace Probe

open Cluster Action

namespace Findings

/-- Findings ease others if they list the same names in the same order, and each of their verdicts
eases the other one. -/
def Eases (eased strict : Findings) : Prop :=
  List.Forall₂ (fun one other => one.1 = other.1 ∧ one.2.Eases other.2) eased strict

namespace Eases

variable {eased strict : Findings}

/-- Findings go on easing others when both get a verdict on a node. -/
theorem put
    {lenient severe : Verdict}
    (eases : eased.Eases strict)
    (node : String)
    (easesToo : lenient.Eases severe) :
    Eases (eased.put node lenient) (strict.put node severe) := by
  induction eases with
  | nil => exact .cons ⟨rfl, easesToo⟩ .nil
  | @cons one other easedRest strictRest corresponds rest inductionHypothesis =>
      obtain ⟨firstName, first⟩ := one
      obtain ⟨secondName, second⟩ := other
      obtain ⟨rfl, firstEases⟩ := corresponds
      dsimp only [NameTable.put]
      split
      · exact .cons ⟨rfl, easesToo⟩ rest
      · exact .cons ⟨rfl, firstEases⟩ inductionHypothesis

theorem putIfFound
    {lenient severe : Option Verdict}
    (eases : eased.Eases strict)
    (node : String)
    (easesToo : Option.Rel Verdict.Eases lenient severe) :
    Eases (eased.putIfFound node lenient) (strict.putIfFound node severe) := by
  cases easesToo with
  | none => exact eases
  | some verdictEases => exact eases.put node verdictEases

/-- A node that passes by findings passes by those that ease them. -/
theorem passes
    (eases : eased.Eases strict)
    {node : String}
    (passed : Preflight.passes strict node = true) :
    Preflight.passes eased node = true := by
  induction eases with
  | nil => exact passed
  | @cons one other easedRest strictRest corresponds rest inductionHypothesis =>
      obtain ⟨same, verdictEases⟩ := corresponds
      unfold Preflight.passes at passed inductionHypothesis ⊢
      rw [NameTable.find?_cons] at passed ⊢
      rw [same]
      split
      · rename_i first
        rw [if_pos first] at passed
        exact verdictEases.hasSpace_of_hasSpace passed
      · rename_i later
        rw [if_neg later] at passed
        exact inductionHypothesis passed

end Eases
end Findings

/-- Judging a sample is recording its verdict. -/
theorem onlyRecords_judge
    (node : String)
    (reserved : Reservation)
    (sample : Sample) :
    OnlyRecords (Checker.judge node reserved sample) (judged node reserved sample) := by
  intro world
  unfold Checker.judge judged
  cases sample.covers? reserved with
  | none => exact ⟨world.records, rfl⟩
  | some hasSpace =>
      dsimp only
      split
      · exact ⟨_, rfl⟩
      · exact ⟨world.records, rfl⟩

theorem onlyRecords_announce
    (nodes : List String)
    (reserved : Reservation)
    (basePath : Text) :
    OnlyRecords (announce nodes reserved basePath) (.ok ()) := by
  intro world
  unfold announce
  cases reserved.text? with
  | none => exact ⟨world.records, rfl⟩
  | some amount => exact ⟨_, rfl⟩

section Surveys

variable {smaller larger : Int}

/-- A judgement eases the one by a larger reservation. -/
theorem alike_judge
    (le : smaller ≤ larger)
    (node : String)
    (sample : Sample) :
    Alike Verdict.Eases
      (Checker.judge node (.bytes smaller) sample) (Checker.judge node (.bytes larger) sample) := by
  refine (onlyRecords_judge node _ sample).alike (onlyRecords_judge node _ sample) ?_
  refine .went { node_eq := rfl, free_eq := rfl, hasSpace_of_hasSpace := ?_ }
  exact Sample.covers_of_le le

/-- A reservation is looked at only by the judgement at the end of a check. -/
theorem alike_checkNode
    (le : smaller ≤ larger)
    (checker : Checker)
    (node : String)
    (basePath : Option Text) :
    Alike Verdict.Eases
      (checker.checkNode node (.bytes smaller) basePath)
      (checker.checkNode node (.bytes larger) basePath) := by
  rw [checkNode_eq, checkNode_eq]
  refine (oblivious_approach checker node basePath).bind_alike ?_
  rintro ⟨path, claim, job⟩
  have measured :=
    (oblivious_measure checker claim job path).thenAlways (oblivious_cleanup checker claim job)
  exact measured.bind_alike fun sample => alike_judge le node sample

variable (le : smaller ≤ larger) (checker : Checker) (basePath : Text)

include le in
theorem alike_surveyNode (node : String) :
    Alike (Option.Rel Verdict.Eases)
      (checker.surveyNode (.bytes smaller) basePath node)
      (checker.surveyNode (.bytes larger) basePath node) := by
  unfold Checker.surveyNode
  refine (alike_checkNode le checker node (some basePath)).attempt.bind ?_
  intro first second ends
  cases ends with
  | went eases => exact alike_pure (.some eases)
  | failed failure =>
      -- Both checks have failed in the same way, so that both nodes are passed over or none is.
      match failure with
      | .check (.single cause) earlier =>
          dsimp only
          split
          · exact (oblivious_note _ _).bind_alike fun _ => alike_pure .none
          · exact alike_throw _
      | .check (.cleanup causes) earlier => exact alike_throw _
      | .foreign fault => exact alike_throw _
      | .impasse reason => exact alike_throw _

include le in
theorem alike_surveyInTurn
    {eased strict : Findings}
    (eases : eased.Eases strict)
    (nodes : List String) :
    Alike Findings.Eases
      (checker.surveyInTurn (.bytes smaller) basePath eased nodes)
      (checker.surveyInTurn (.bytes larger) basePath strict nodes) := by
  induction nodes generalizing eased strict with
  | nil => exact alike_pure eases
  | cons node others inductionHypothesis =>
      refine (alike_surveyNode le checker basePath node).bind ?_
      intro first second verdictEases
      exact inductionHypothesis (eases.putIfFound node verdictEases)

/-- Outcomes of checks correspond if they are about the same nodes in the same order, and are
failures alike or have verdicts of which one eases the other. -/
def OutcomesEase (eased strict : List (String × Except Failure (Option Verdict))) : Prop :=
  List.Forall₂
    (fun one other => one.1 = other.1 ∧ EndsAlike (Option.Rel Verdict.Eases) one.2 other.2)
    eased strict

include le in
theorem alike_surveyAll (nodes : List String) :
    Alike OutcomesEase
      (checker.surveyAll (.bytes smaller) basePath nodes)
      (checker.surveyAll (.bytes larger) basePath nodes) := by
  induction nodes with
  | nil => exact alike_pure .nil
  | cons node others inductionHypothesis =>
      refine (alike_surveyNode le checker basePath node).attempt.bind ?_
      intro first second ends
      refine inductionHypothesis.bind ?_
      intro firstRest secondRest restEase
      exact alike_pure (.cons ⟨rfl, ends⟩ restEase)

/-- What is collected from corresponding outcomes is a failure alike, or findings that ease. -/
theorem endsAlike_collect
    {easedOutcomes strictOutcomes : List (String × Except Failure (Option Verdict))}
    (ease : OutcomesEase easedOutcomes strictOutcomes)
    {eased strict : Findings}
    (eases : eased.Eases strict) :
    EndsAlike Findings.Eases
      (Checker.collect eased easedOutcomes) (Checker.collect strict strictOutcomes) := by
  induction ease generalizing eased strict with
  | nil => exact .went eases
  | @cons one other easedRest strictRest corresponds rest inductionHypothesis =>
      obtain ⟨firstName, first⟩ := one
      obtain ⟨secondName, second⟩ := other
      obtain ⟨rfl, ends⟩ := corresponds
      cases ends with
      | failed failure => exact .failed failure
      | went verdictEases => exact inductionHypothesis (eases.putIfFound firstName verdictEases)

include le in
theorem alike_surveyAtOnce (nodes : List String) :
    Alike Findings.Eases
      (surveyAtOnce checker (.bytes smaller) basePath [] nodes)
      (surveyAtOnce checker (.bytes larger) basePath [] nodes) := by
  refine (alike_surveyAll le checker basePath nodes).bind ?_
  intro easedOutcomes strictOutcomes ease
  have nothing : Findings.Eases [] [] := .nil
  have ends := endsAlike_collect ease nothing
  generalize Checker.collect [] easedOutcomes = first at ends
  generalize Checker.collect [] strictOutcomes = second at ends
  cases ends with
  | failed failure => exact alike_throw failure
  | went eases => exact alike_pure eases

include le in
/-- Surveys with two reservations go the same way, and the findings for the smaller reservation
ease those for the larger one. -/
theorem alike_survey
    (nodes : List String)
    (atOnce : Bool) :
    Alike Findings.Eases
      (checker.survey nodes (some (.bytes smaller)) atOnce)
      (checker.survey nodes (some (.bytes larger)) atOnce) := by
  rw [survey_eq, survey_eq]
  refine (oblivious_basePath checker).bind_alike ?_
  intro basePath
  dsimp only [reservationFor]
  rw [pure_bind, pure_bind]
  have announced :
      Alike (· = ·) (announce nodes (.bytes smaller) basePath)
        (announce nodes (.bytes larger) basePath) :=
    (onlyRecords_announce _ _ _).alike (onlyRecords_announce _ _ _) (.went rfl)
  refine announced.bind ?_
  intro _ _ _
  cases atOnce with
  | true => exact alike_surveyAtOnce le checker basePath nodes
  | false => exact alike_surveyInTurn le checker basePath .nil nodes

end Surveys
end Probe

namespace Preflight

open Cluster Probe

variable {smaller larger : Int}

/-- A preflight check that comes to a survey comes to one with a smaller reservation as well, by
whose findings the same nodes pass at least. -/
theorem Surveyed.exists_of_le
    (le : smaller ≤ larger)
    {limits : Yaml.Limits}
    {sources : Sources}
    {faults : ConfigurationFaults}
    {question : Question}
    {world : World}
    (surveyed :
      Surveyed limits sources faults { question with reserved := some (.bytes larger) } world) :
    ∃ other :
        Surveyed limits sources faults { question with reserved := some (.bytes smaller) } world,
      other.findings.Eases surveyed.findings := by
  obtain ⟨ends, -⟩ :=
    alike_survey le surveyed.checker question.nodes surveyed.settings.atOnce world world.records
  have strictRan :
      ((surveyed.checker.survey question.nodes (some (.bytes larger))
        surveyed.settings.atOnce).run world).1 = .ok surveyed.findings := by
    rw [surveyed.ran]
  rw [strictRan] at ends
  generalize easedRan :
    (surveyed.checker.survey question.nodes (some (.bytes smaller))
      surveyed.settings.atOnce).run world = eased at ends
  obtain ⟨outcome, after⟩ := eased
  cases ends with
  | @went findings _ eases =>
      obtain ⟨basePath, amount, begun, opened⟩ := exists_opened_of_survey_ok easedRan
      exact ⟨{
        settings := surveyed.settings
        checker := surveyed.checker
        basePath, amount, begun, findings, after
        settings_eq := surveyed.settings_eq
        reached := surveyed.reached
        checker_eq := surveyed.checker_eq
        opened
        ran := easedRan }, eases⟩

/-- Surveys with two reservations make the same exchanges, end at the same time, and fail alike or
have findings about the same nodes with the same free bytes, among which there is enough space for
the smaller reservation wherever there is for the larger one.  So a preflight check that passes
with a reservation passes with every smaller one. -/
theorem reservation_decides_space
    (le : smaller ≤ larger) :
    (∀ (checker : Checker) (nodes : List String) (atOnce : Bool) (world : World),
      let eased := (checker.survey nodes (some (.bytes smaller)) atOnce).run world
      let strict := (checker.survey nodes (some (.bytes larger)) atOnce).run world
      strict.2.history = eased.2.history ∧ strict.2.clock = eased.2.clock ∧
        EndsAlike Findings.Eases eased.1 strict.1) ∧
      ∀ (limits : Yaml.Limits) (sources : Sources) (faults : ConfigurationFaults)
          (question : Question) (world : World),
        (run limits sources faults
            { question with reserved := some (.bytes larger) } world).answer = .ok true →
          (run limits sources faults
            { question with reserved := some (.bytes smaller) } world).answer = .ok true := by
  constructor
  · intro checker nodes atOnce world
    have alike := alike_survey le checker nodes atOnce world world.records
    exact ⟨alike.history_eq, alike.clock_eq, alike.ends⟩
  · intro limits sources faults question world passed
    obtain ⟨surveyed, all⟩ := answer_eq_true_iff_passes.mp passed
    obtain ⟨other, eases⟩ := surveyed.exists_of_le le
    refine answer_eq_true_iff_passes.mpr ⟨other, ?_⟩
    intro node listed
    exact eases.passes (all node listed)

/-- The question whether all of the free bytes of a node can be reserved. -/
def fullQuestion : Question :=
  { nodes := ["node"], reserved := some (.bytes 38), level := some defaultLevel }

/-- The question whether there is any space on a node. -/
def emptyQuestion : Question :=
  { fullQuestion with reserved := some (.bytes 0) }

theorem reservation_decides_space_full :
    (0 : Int) ≤ 38 ∧
      ((plainChecker.survey ["node", "other"] (some (.bytes 38)) true).run
          (.start mixedScript)).2.history =
        ((plainChecker.survey ["node", "other"] (some (.bytes 0)) true).run
          (.start mixedScript)).2.history ∧
      (run .usual namedClasses .none fullQuestion (.start mixedScript)).answer = .ok true ∧
      (run .usual namedClasses .none emptyQuestion (.start mixedScript)).answer = .ok true := by
  have le : (0 : Int) ≤ 38 := by decide
  have passed :
      (run .usual namedClasses .none fullQuestion (.start mixedScript)).answer = .ok true := by
    decide +kernel
  obtain ⟨surveys, checks⟩ := reservation_decides_space le
  obtain ⟨sameHistory, -⟩ := surveys plainChecker ["node", "other"] true (.start mixedScript)
  exact ⟨le, sameHistory, passed, checks .usual namedClasses .none fullQuestion _ passed⟩

end Preflight
end Headroom
