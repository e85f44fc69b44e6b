import Headroom.Proofs.NameTable
import Headroom.Proofs.Probe.Rejection
import Headroom.Proofs.Probe.Soundness
import Headroom.Proofs.Probe.Visits

/-!
# What findings tell of visits

A survey has findings only if each of its visits is decided: either it has a verdict
on its node, or the node carries a mark and nothing was done but reading it.

The findings list the names of the nodes that were found to take new pods, in the
order of the first such visits.  The verdict of a name is that of the last one.
-/

namespace Headroom
namespace Probe

open Cluster Action

namespace Visit

/-- The node of a visit as it was read, if it was. -/
def described? (visit : Visit) : Option Node :=
  match visit.trace with
  | ⟨.readNode _, .answered described⟩ :: _ => some described
  | _ => none

/-- Whether a visit finds that its node takes new pods. -/
def isSchedulable (visit : Visit) : Bool :=
  visit.described?.any fun described => (Checker.unschedulableMarker? described).isNone

/-- The verdict of a visit by the name of its node, if there is one. -/
def finding? (visit : Visit) : Option (String × Verdict) :=
  match visit.ending with
  | .ok verdict => some (visit.node, verdict)
  | .error _ => none

/-- A visit has a verdict on its node, or the node is rejected and was only read. -/
inductive IsDecided (visit : Visit) : Prop
  | checked
      {verdict : Verdict}
      (schedulable : visit.isSchedulable = true)
      (ended : visit.ending = .ok verdict)
      (named : verdict.node = visit.node)
  | rejected
      {described : Node}
      {marker : String}
      (onlyRead : visit.trace = [⟨.readNode visit.node, .answered described⟩])
      (carried : Checker.unschedulableMarker? described = some marker)
      (ended : visit.ending =
        .error (.of (.unschedulable (described.metadata.bind (·.name)) marker)))

section Decided

variable {visit : Visit}

theorem described?_eq_of_trace_eq
    {node : String}
    {described : Node}
    {trace : List Exchange}
    (trace_eq : visit.trace = ⟨.readNode node, .answered described⟩ :: trace) :
    visit.described? = some described := by
  rw [described?, trace_eq]

/-- A decided visit has a finding exactly when it finds that its node takes new pods. -/
theorem IsDecided.finding?_cases (decided : visit.IsDecided) :
    (visit.isSchedulable = true ∧
        ∃ verdict, visit.ending = .ok verdict ∧ verdict.node = visit.node ∧
          visit.finding? = some (visit.node, verdict)) ∨
      (visit.isSchedulable = false ∧ visit.finding? = none) := by
  cases decided with
  | @checked verdict schedulable ended named =>
      refine .inl ⟨schedulable, verdict, ended, named, ?_⟩
      rw [finding?, ended]
  | rejected onlyRead carried ended =>
      refine .inr ⟨?_, ?_⟩
      · simp [isSchedulable, described?_eq_of_trace_eq onlyRead, carried]
      · rw [finding?, ended]

end Decided
end Visit

/-- A visit after which the survey goes on is decided. -/
theorem isDecided_visit
    (checker : Checker)
    (reserved : Reservation)
    (basePath : Text)
    (node : String)
    (world : World)
    {found : Option Verdict}
    (wentOn : passedOver (visit checker reserved basePath node world).ending = .ok found) :
    (visit checker reserved basePath node world).IsDecided := by
  obtain ⟨-, checked⟩ := checkRun_visit checker reserved basePath node world
  generalize made : visit checker reserved basePath node world = visited at wentOn checked ⊢
  have node_eq : visited.node = node := by rw [← made]; rfl
  generalize traced : visited.trace = trace at checked
  generalize ended : visited.ending = ending at checked wentOn
  cases checked with
  | given probe =>
  cases found with
  | none =>
      obtain ⟨failure, rfl, rejects⟩ := passedOver_eq_none_iff.mp wentOn
      obtain ⟨described, marker, rfl, carried, rfl⟩ := probe.marked_of_isRejection rejects
      exact .rejected (by rw [traced, node_eq]) carried ended
  | some verdict =>
      obtain rfl := passedOver_eq_some_iff.mp wentOn
      generalize outcome_eq : (.ok verdict : Except Failure Verdict) = outcome at probe
      cases probe with
      | unread failed => cases outcome_eq
      | marked carried => cases outcome_eq
      | @probed described first more sampled cleaned unmarked measurement cleanup =>
          -- The node carries no mark, and its sample was judged.
          cases settled : settle sampled cleaned with
          | error failure =>
              rw [settled] at outcome_eq
              cases outcome_eq
          | ok sample =>
              rw [settled] at outcome_eq
              obtain ⟨named, -, -⟩ := judged_eq_ok outcome_eq.symm
              refine .checked ?_ ended (named.trans node_eq.symm)
              simp [Visit.isSchedulable, Visit.described?_eq_of_trace_eq traced, unmarked]

/-- Findings are collected if each visit lets the survey go on, and they are what the visits
found. -/
theorem collect_eq_ok_iff
    {findings collected : Findings}
    {made : List Visit} :
    Checker.collect findings (made.map Visit.result) = .ok collected ↔
      (∀ visit ∈ made, ∃ found, passedOver visit.ending = .ok found) ∧
        collected = findings.putAll (made.filterMap Visit.finding?) := by
  induction made generalizing findings with
  | nil => simp [Checker.collect, eq_comm]
  | cons visit others inductionHypothesis =>
      rw [List.map_cons, Visit.result]
      cases wentOn : passedOver visit.ending with
      | error failure => simp [Checker.collect, wentOn]
      | ok found =>
          rw [Checker.collect, inductionHypothesis]
          cases found with
          | none =>
              obtain ⟨failure, ended, -⟩ := passedOver_eq_none_iff.mp wentOn
              have nothing : visit.finding? = none := by rw [Visit.finding?, ended]
              simp [wentOn, nothing]
          | some verdict =>
              have ended := passedOver_eq_some_iff.mp wentOn
              have finding : visit.finding? = some (visit.node, verdict) := by
                rw [Visit.finding?, ended]
              simp [wentOn, finding]

/-- A visit is the last one by which the node of a name was found to take new pods. -/
def IsLastSchedulable
    (made : List Visit)
    (name : String)
    (visit : Visit) : Prop :=
  ∃ earlier later,
    made = earlier ++ visit :: later ∧
      visit.node = name ∧
      visit.isSchedulable = true ∧
      ∀ other ∈ later, other.node = name → other.isSchedulable = false

namespace IsLastSchedulable

variable {made : List Visit} {visit : Visit}

theorem isSchedulable
    {name : String}
    (isLast : IsLastSchedulable made name visit) :
    visit.isSchedulable = true := by
  obtain ⟨earlier, later, -, -, schedulable, -⟩ := isLast
  exact schedulable

/-- If every name is visited once, a visit by which a node is found to take new pods is the last
one. -/
theorem of_nodup
    (distinct : (made.map (·.node)).Nodup)
    (visited : visit ∈ made)
    (schedulable : visit.isSchedulable = true) :
    IsLastSchedulable made visit.node visit := by
  obtain ⟨earlier, later, rfl⟩ := List.append_of_mem visited
  rw [List.map_append, List.map_cons, List.nodup_append, List.nodup_cons] at distinct
  refine ⟨earlier, later, rfl, rfl, schedulable, ?_⟩
  intro other present same
  exact (distinct.2.1.1 (same ▸ List.mem_map_of_mem present)).elim

/-- If every name is visited once, the last visit of a node is its only one. -/
theorem eq_of_nodup
    {last : Visit}
    (isLast : IsLastSchedulable made visit.node last)
    (distinct : (made.map (·.node)).Nodup)
    (visited : visit ∈ made) :
    last = visit := by
  obtain ⟨earlier, later, rfl, same, -, -⟩ := isLast
  rw [List.map_append, List.map_cons, List.nodup_append, List.nodup_cons] at distinct
  rcases List.mem_append.mp visited with before | fromLast
  · exact (distinct.2.2 _ (List.mem_map_of_mem before) _ List.mem_cons_self same.symm).elim
  · rcases List.mem_cons.mp fromLast with rfl | afterwards
    · rfl
    · exact (distinct.2.1.1 (same ▸ List.mem_map_of_mem afterwards)).elim

end IsLastSchedulable

/-- Findings tell of visits by names, the first of them giving the place and the last one the
verdict. -/
structure Accounts
    (made : List Visit)
    (findings : Findings) : Prop where
  names_eq : findings.names = ((made.filter (·.isSchedulable)).map (·.node)).eraseDups
  mem_names_iff :
    ∀ name, name ∈ findings.names ↔
      ∃ visit ∈ made, visit.node = name ∧ visit.isSchedulable = true
  find?_eq_some_iff :
    ∀ name verdict, findings.find? name = some verdict ↔
      ∃ visit, IsLastSchedulable made name visit ∧ visit.ending = .ok verdict
  node_eq : ∀ name verdict, findings.find? name = some verdict → verdict.node = name

section Accounts

variable {made : List Visit}

/-- What decided visits found is found by those that found a node to take new pods. -/
theorem map_fst_filterMap_finding?
    (decided : ∀ visit ∈ made, visit.IsDecided) :
    (made.filterMap Visit.finding?).map (·.1) =
      (made.filter (·.isSchedulable)).map (·.node) := by
  induction made with
  | nil => rfl
  | cons visit others inductionHypothesis =>
      have rest := inductionHypothesis fun other later =>
        decided other (List.mem_cons_of_mem visit later)
      rcases (decided visit List.mem_cons_self).finding?_cases with
        ⟨schedulable, verdict, -, -, found⟩ | ⟨unschedulable, found⟩
      · simp [schedulable, found, rest]
      · simp [unschedulable, found, rest]

/-- The last finding for a name is that of the last visit by which its node was found to take new
pods. -/
theorem exists_isLastSchedulable_iff
    (decided : ∀ visit ∈ made, visit.IsDecided)
    (name : String)
    (verdict : Verdict) :
    (∃ earlier later, made.filterMap Visit.finding? = earlier ++ (name, verdict) :: later ∧
        ∀ finding ∈ later, finding.1 ≠ name) ↔
      ∃ visit, IsLastSchedulable made name visit ∧ visit.ending = .ok verdict := by
  constructor
  · rintro ⟨earlier, later, found, unlisted⟩
    -- The finding is that of a visit, and the later findings are those of the visits after it.
    obtain ⟨before, rest, rfl, -, foundLater⟩ := List.filterMap_eq_append_iff.mp found
    obtain ⟨between, visit, after, rfl, -, finding, rfl⟩ :=
      List.filterMap_eq_cons_iff.mp foundLater
    have visited : visit ∈ before ++ (between ++ visit :: after) := by simp
    rcases (decided visit visited).finding?_cases with
      ⟨schedulable, other, ended, -, other_finding⟩ | ⟨-, none_finding⟩
    · rw [finding] at other_finding
      cases other_finding
      refine ⟨visit, ⟨before ++ between, after, by simp, rfl, schedulable, ?_⟩, ended⟩
      intro next present sameName
      -- A later visit of the same node that had a verdict would be among the later findings.
      have alsoVisited : next ∈ before ++ (between ++ visit :: after) := by simp [present]
      rcases (decided next alsoVisited).finding?_cases with
        ⟨-, newer, -, -, newer_finding⟩ | ⟨unschedulable, -⟩
      · have listed := List.mem_filterMap.mpr ⟨next, present, newer_finding⟩
        exact (unlisted _ listed sameName).elim
      · exact unschedulable
    · rw [finding] at none_finding
      cases none_finding
  · rintro ⟨visit, ⟨earlier, later, rfl, rfl, -, last⟩, ended⟩
    have finding : visit.finding? = some (visit.node, verdict) := by rw [Visit.finding?, ended]
    refine ⟨earlier.filterMap Visit.finding?, later.filterMap Visit.finding?, ?_, ?_⟩
    · simp [finding]
    · rintro entry listed sameName
      obtain ⟨next, present, next_finding⟩ := List.mem_filterMap.mp listed
      have visited : next ∈ earlier ++ visit :: later := by simp [present]
      rcases (decided next visited).finding?_cases with
        ⟨schedulable, newer, -, -, newer_finding⟩ | ⟨-, none_finding⟩
      · rw [next_finding] at newer_finding
        cases newer_finding
        rw [last next present sameName] at schedulable
        cases schedulable
      · rw [next_finding] at none_finding
        cases none_finding

/-- The findings of decided visits tell of them. -/
theorem accounts_putAll (decided : ∀ visit ∈ made, visit.IsDecided) :
    Accounts made (NameTable.putAll [] (made.filterMap Visit.finding?)) := by
  have names_eq :
      (NameTable.putAll [] (made.filterMap Visit.finding?)).names =
        ((made.filter (·.isSchedulable)).map (·.node)).eraseDups := by
    rw [NameTable.names_putAll_nil, map_fst_filterMap_finding? decided]
  have find?_eq_some_iff (name : String) (verdict : Verdict) :
      (NameTable.putAll [] (made.filterMap Visit.finding?)).find? name = some verdict ↔
        ∃ visit, IsLastSchedulable made name visit ∧ visit.ending = .ok verdict := by
    rw [NameTable.find?_putAll_nil_eq_some_iff]
    exact exists_isLastSchedulable_iff decided name verdict
  refine { names_eq, find?_eq_some_iff, mem_names_iff := ?_, node_eq := ?_ }
  · intro name
    simp only [names_eq, List.mem_eraseDups, List.mem_map, List.mem_filter]
    constructor
    · rintro ⟨visit, ⟨visited, schedulable⟩, named⟩
      exact ⟨visit, visited, named, schedulable⟩
    · rintro ⟨visit, visited, named, schedulable⟩
      exact ⟨visit, ⟨visited, schedulable⟩, named⟩
  · intro name verdict present
    obtain ⟨visit, ⟨earlier, later, rfl, rfl, schedulable, -⟩, ended⟩ :=
      (find?_eq_some_iff name verdict).mp present
    have visited : visit ∈ earlier ++ visit :: later := by simp
    rcases (decided visit visited).finding?_cases with
      ⟨-, other, other_ended, named, -⟩ | ⟨unschedulable, -⟩
    · rw [ended] at other_ended
      cases other_ended
      exact named
    · rw [unschedulable] at schedulable
      cases schedulable

end Accounts

/-- If findings are collected from visits, the visits are decided and the findings tell of them. -/
theorem accounts_of_collect
    {checker : Checker}
    {reserved : Reservation}
    {basePath : Text}
    {nodes : List String}
    {world : World}
    {findings : Findings}
    (collected :
      Checker.collect [] ((visits checker reserved basePath nodes world).map Visit.result) =
        .ok findings) :
    (∀ made ∈ visits checker reserved basePath nodes world, made.IsDecided) ∧
      Accounts (visits checker reserved basePath nodes world) findings := by
  obtain ⟨wentOn, rfl⟩ := collect_eq_ok_iff.mp collected
  have decided : ∀ made ∈ visits checker reserved basePath nodes world, made.IsDecided := by
    intro made visited
    obtain ⟨found, found_eq⟩ := wentOn made visited
    rw [visits_checked checker reserved basePath nodes world made visited] at found_eq ⊢
    exact isDecided_visit checker reserved basePath made.node made.before found_eq
  exact ⟨decided, accounts_putAll decided⟩

end Probe
end Headroom
