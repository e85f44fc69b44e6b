import Headroom.Preflight
import Headroom.Proofs.Probe.Findings

/-!
# When a preflight check passes

A preflight check passes when its settings make sense, the cluster can be reached, a
checker can be made of the settings, the survey has findings, and these tell of enough
space for every name of its list.

Findings keep one verdict for each name.  If a list names a node several times, it is
its last visit that counts among those by which it was found to take new pods; what
came of the other visits makes no difference.
-/

namespace Headroom
namespace Preflight

open Cluster Action Probe

/-- Whether findings tell that a node has enough space. -/
def passes
    (findings : Findings)
    (node : String) : Bool :=
  (findings.find? node).any (·.hasSpace)

theorem passes_eq_true_iff
    {findings : Findings}
    {node : String} :
    passes findings node = true ↔
      ∃ verdict, findings.find? node = some verdict ∧ verdict.hasSpace = true := by
  simp [passes, Option.any_eq_true]

section Assessment

variable (findings : Findings)

/-- Assessing a node is looking up whether it passes; a record may be written. -/
theorem run_assessNode (node : String) (world : World) :
    ∃ after,
      (assessNode findings node).run world = (.ok (passes findings node), after) := by
  unfold assessNode passes
  cases findings.find? node with
  | none => exact ⟨_, rfl⟩
  | some verdict =>
      dsimp only [Option.any_some]
      cases verdict.hasSpace with
      | true => exact ⟨_, rfl⟩
      | false => exact ⟨_, rfl⟩

/-- Nodes pass if each of them does. -/
theorem run_assess (nodes : List String) (world : World) :
    ∃ after,
      (assess findings nodes).run world = (.ok (nodes.all (passes findings)), after) := by
  induction nodes generalizing world with
  | nil => exact ⟨world, rfl⟩
  | cons node others inductionHypothesis =>
      obtain ⟨after, first⟩ := run_assessNode findings node world
      obtain ⟨later, rest⟩ := inductionHypothesis after
      refine ⟨later, ?_⟩
      rw [assess, run_bind, first]
      dsimp only
      rw [run_bind, rest]
      rfl

end Assessment

/-- A check passes if a checker can be made, its survey has findings, and every node passes by
these. -/
theorem check_eq_true_iff
    {arguments : Arguments}
    {nodes : List String}
    {reserved : Option Reservation}
    {atOnce : Bool}
    {world : World} :
    ((check arguments nodes reserved atOnce).run world).1 = .ok true ↔
      ∃ checker findings after,
        Checker.ofArguments arguments = .ok checker ∧
          (checker.survey nodes reserved atOnce).run world = (.ok findings, after) ∧
            ∀ node ∈ nodes, passes findings node = true := by
  unfold check
  cases made : Checker.ofArguments arguments with
  | error cause =>
      constructor
      · intro passed
        cases passed
      · rintro ⟨checker, findings, after, impossible, -⟩
        cases impossible
  | ok checker =>
      dsimp only
      rw [run_bind, run_attempt]
      cases ran : (checker.survey nodes reserved atOnce).run world with
      | mk outcome after =>
      match outcome with
      | .ok findings =>
          obtain ⟨later, assessed⟩ := run_assess findings nodes after
          dsimp only
          rw [assessed]
          constructor
          · intro passed
            refine ⟨checker, findings, after, rfl, ran, ?_⟩
            simpa using passed
          · rintro ⟨_, other, _, ⟨⟩, ranToo, all⟩
            rw [ran] at ranToo
            cases ranToo
            simpa using all
      | .error failure =>
          constructor
          · intro passed
            match failure with
            | .check error earlier => cases passed
            | .foreign fault => cases passed
            | .impasse reason => cases passed
          · rintro ⟨_, findings, _, ⟨⟩, ranToo, -⟩
            rw [ran] at ranToo
            cases ranToo

/-- How a preflight check comes to a survey that has findings. -/
structure Surveyed
    (limits : Yaml.Limits)
    (sources : Sources)
    (faults : ConfigurationFaults)
    (question : Question)
    (world : World) where
  settings : Settings
  checker : Checker
  basePath : Text
  amount : Reservation
  /-- The world in which the first visit begins. -/
  begun : World
  findings : Findings
  after : World
  settings_eq : Settings.ofSources sources = .ok settings
  reached : (configure settings faults).2 = none
  checker_eq : Checker.ofArguments (checkerArguments limits settings) = .ok checker
  opened :
    (opening checker question.nodes question.reserved).run world = (.ok (basePath, amount), begun)
  ran :
    (checker.survey question.nodes question.reserved settings.atOnce).run world =
      (.ok findings, after)

section Run

variable
  {limits : Yaml.Limits}
  {sources : Sources}
  {faults : ConfigurationFaults}
  {question : Question}
  {world : World}

namespace Surveyed

/-- The visits of the survey. -/
def made (surveyed : Surveyed limits sources faults question world) : List Visit :=
  visits surveyed.checker surveyed.amount surveyed.basePath question.nodes surveyed.begun

/-- The findings tell of the visits. -/
theorem accounts (surveyed : Surveyed limits sources faults question world) :
    Accounts surveyed.made surveyed.findings := by
  obtain ⟨collected, -⟩ := run_survey_of_opening surveyed.settings.atOnce surveyed.opened
  rw [surveyed.ran] at collected
  exact (accounts_of_collect collected.symm).2

/-- A node passes exactly if the last visit by which it was found to take new pods found enough
space. -/
theorem passes_iff
    (surveyed : Surveyed limits sources faults question world)
    (node : String) :
    passes surveyed.findings node = true ↔
      ∃ visit verdict, IsLastSchedulable surveyed.made node visit ∧
        visit.ending = .ok verdict ∧ verdict.hasSpace = true := by
  rw [passes_eq_true_iff]
  constructor
  · rintro ⟨verdict, found, hasSpace⟩
    obtain ⟨visit, last, ended⟩ := (surveyed.accounts.find?_eq_some_iff node verdict).mp found
    exact ⟨visit, verdict, last, ended, hasSpace⟩
  · rintro ⟨visit, verdict, last, ended, hasSpace⟩
    have found := (surveyed.accounts.find?_eq_some_iff node verdict).mpr ⟨visit, last, ended⟩
    exact ⟨verdict, found, hasSpace⟩

end Surveyed

/-- A preflight check passes if it comes to a survey by whose findings all nodes pass. -/
theorem answer_eq_true_iff_passes :
    (run limits sources faults question world).answer = .ok true ↔
      ∃ surveyed : Surveyed limits sources faults question world,
        ∀ node ∈ question.nodes, passes surveyed.findings node = true := by
  unfold run
  cases read : Settings.ofSources sources with
  | error issues =>
      constructor
      · intro passed
        cases passed
      · rintro ⟨surveyed, -⟩
        rw [surveyed.settings_eq] at read
        cases read
  | ok settings =>
      dsimp only
      cases tried : configure settings faults with
      | mk attempts fault =>
      cases fault with
      | some text =>
          constructor
          · intro passed
            cases passed
          · rintro ⟨surveyed, -⟩
            obtain rfl := Except.ok.inj (surveyed.settings_eq.symm.trans read)
            have reached := surveyed.reached
            rw [tried] at reached
            cases reached
      | none =>
          have answered {outcome : Except Failure Bool} :
              outcome.mapError Fault.failure = .ok true ↔ outcome = .ok true := by
            cases outcome with
            | error failure => exact ⟨nofun, nofun⟩
            | ok passes => constructor <;> rintro ⟨⟩ <;> rfl
          have checked := @check_eq_true_iff (checkerArguments limits settings) question.nodes
            question.reserved settings.atOnce world
          cases ran :
            (check (checkerArguments limits settings) question.nodes question.reserved
              settings.atOnce).run world with
          | mk outcome after =>
          rw [ran] at checked
          dsimp only
          rw [answered, checked]
          constructor
          · rintro ⟨checker, findings, later, checker_eq, surveyRan, all⟩
            obtain ⟨basePath, amount, begun, opened⟩ := exists_opened_of_survey_ok surveyRan
            have reached : (configure settings faults).2 = none := by rw [tried]
            exact ⟨{
              settings, checker, basePath, amount, begun, findings
              after := later
              settings_eq := read
              reached, checker_eq, opened
              ran := surveyRan }, all⟩
          · rintro ⟨surveyed, all⟩
            obtain rfl := Except.ok.inj (surveyed.settings_eq.symm.trans read)
            exact ⟨surveyed.checker, surveyed.findings, surveyed.after, surveyed.checker_eq,
              surveyed.ran, all⟩

/-- A preflight check passes exactly if it comes to a survey that has findings, and if for every
name of its list the last visit by which the node was found to take new pods found enough
space. -/
theorem answer_eq_true_iff_last_visits
    (limits : Yaml.Limits)
    (sources : Sources)
    (faults : ConfigurationFaults)
    (question : Question)
    (world : World) :
    (run limits sources faults question world).answer = .ok true ↔
      ∃ surveyed : Surveyed limits sources faults question world,
        ∀ node ∈ question.nodes, ∃ visit verdict,
          IsLastSchedulable surveyed.made node visit ∧
            visit.ending = .ok verdict ∧ verdict.hasSpace = true := by
  rw [answer_eq_true_iff_passes]
  refine exists_congr fun surveyed => ?_
  exact forall₂_congr fun node listed => surveyed.passes_iff node

/-- If no name is repeated, a preflight check passes exactly if every visit found that its node
takes new pods and has enough space. -/
theorem answer_eq_true_iff_of_nodup (distinct : question.nodes.Nodup) :
    (run limits sources faults question world).answer = .ok true ↔
      ∃ surveyed : Surveyed limits sources faults question world,
        ∀ visit ∈ surveyed.made, visit.isSchedulable = true ∧
          ∃ verdict, visit.ending = .ok verdict ∧ verdict.hasSpace = true := by
  rw [answer_eq_true_iff_passes]
  refine exists_congr fun surveyed => ?_
  have nodes_eq : surveyed.made.map (·.node) = question.nodes :=
    visits_map_node surveyed.checker surveyed.amount surveyed.basePath question.nodes
      surveyed.begun
  have names_distinct : (surveyed.made.map (·.node)).Nodup := by rwa [nodes_eq]
  constructor
  · intro all visit visited
    have listed : visit.node ∈ question.nodes := by
      rw [← nodes_eq]
      exact List.mem_map_of_mem visited
    obtain ⟨last, verdict, isLast, ended, hasSpace⟩ :=
      (surveyed.passes_iff visit.node).mp (all visit.node listed)
    obtain rfl := isLast.eq_of_nodup names_distinct visited
    exact ⟨isLast.isSchedulable, verdict, ended, hasSpace⟩
  · intro all node listed
    rw [← nodes_eq, List.mem_map] at listed
    obtain ⟨visit, visited, rfl⟩ := listed
    obtain ⟨schedulable, verdict, ended, hasSpace⟩ := all visit visited
    refine (surveyed.passes_iff visit.node).mpr ⟨visit, verdict, ?_, ended, hasSpace⟩
    exact .of_nodup names_distinct visited schedulable

end Run

/-- A cluster in which a node takes new pods when it is read for the first time, and does not
when it is read again. -/
def flickeringScript : Script :=
  { routes := fun
      | .readNode =>
        [{ argument := none
           responses :=
            [.immediate (.answered
                { metadata := some { name := some "node", annotations := [] }, taints := [] }),
              .immediate (.answered
                { metadata := some { name := some "node", annotations := [] }
                  taints := ["node.kubernetes.io/not-ready"] })] }]
      | method => mixedScript.routes method }

/-- An environment that names the two storage classes. -/
def namedClasses : Sources :=
  { arguments := []
    environment := [("SRC_STORAGE_CLASS", "source"), ("DST_STORAGE_CLASS", "destination")]
    file := none }

/-- The question about a node that is named twice. -/
def repeatedQuestion : Question :=
  { nodes := ["node", "node"], reserved := some (.bytes 1), level := some defaultLevel }

/-- The visits of that node in that cluster. -/
def repeatedVisits : List Visit :=
  visits plainChecker (.bytes 1) (Text.ofString "/var") repeatedQuestion.nodes
    ((opening plainChecker repeatedQuestion.nodes repeatedQuestion.reserved).run
      (.start flickeringScript)).2

/-- A survey for that question makes these visits. -/
theorem made_eq_repeatedVisits
    (surveyed : Surveyed .usual namedClasses .none repeatedQuestion (.start flickeringScript)) :
    surveyed.made = repeatedVisits := by
  have checker_eq : surveyed.checker = plainChecker := by
    have described :
        (Settings.ofSources namedClasses).toOption.bind
            (fun settings => (Checker.ofArguments (checkerArguments .usual settings)).toOption) =
          some plainChecker := by
      decide +kernel
    rw [surveyed.settings_eq] at described
    dsimp only [Except.toOption, Option.bind_some] at described
    rw [surveyed.checker_eq] at described
    exact Option.some.inj described
  have opened := surveyed.opened
  rw [checker_eq] at opened
  have parts :
      ((opening plainChecker repeatedQuestion.nodes repeatedQuestion.reserved).run
        (.start flickeringScript)).1 = .ok (Text.ofString "/var", .bytes 1) := by
    decide +kernel
  rw [opened] at parts
  obtain ⟨basePath_eq, amount_eq⟩ := Prod.mk.inj (Except.ok.inj parts)
  rw [Surveyed.made, repeatedVisits, opened, checker_eq, basePath_eq, amount_eq]

/-- A node that is named twice passes although its second visit rejects it, so that not every visit
found enough space. -/
theorem repeatedQuestion_passes_rejected :
    ¬((run .usual namedClasses .none repeatedQuestion (.start flickeringScript)).answer = .ok true ↔
        ∃ surveyed : Surveyed .usual namedClasses .none repeatedQuestion (.start flickeringScript),
          ∀ visit ∈ surveyed.made, visit.isSchedulable = true ∧
            ∃ verdict, visit.ending = .ok verdict ∧ verdict.hasSpace = true) := by
  intro claimed
  have passed :
      (run .usual namedClasses .none repeatedQuestion (.start flickeringScript)).answer =
        .ok true := by
    decide +kernel
  obtain ⟨surveyed, all⟩ := claimed.mp passed
  have states : surveyed.made.map (·.isSchedulable) = [true, false] := by
    rw [made_eq_repeatedVisits surveyed]
    decide +kernel
  have schedulable : ∀ state ∈ surveyed.made.map (·.isSchedulable), state = true := by
    simpa using fun visit visited => (all visit visited).1
  rw [states] at schedulable
  exact absurd (schedulable false (by simp)) nofun

end Preflight
end Headroom
