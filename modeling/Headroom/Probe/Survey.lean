import Headroom.NameTable
import Headroom.Probe.Measurement

/-!
# Surveys

A survey checks every node of a list with one base path and one reservation.
Nodes that take no new pods are passed over; any other failure ends the survey.

Verdicts are kept by the name of the node, in the order in which the names first
get one; a name that occurs again keeps its place and gets the later verdict.
-/

namespace Headroom
namespace Probe

open Cluster

/-- The verdicts on nodes by their names. -/
abbrev Findings := NameTable Verdict

namespace Findings

/-- The findings with the verdict on a node, if there is one. -/
def putIfFound
    (findings : Findings)
    (node : String)
    (verdict : Option Verdict) : Findings :=
  match verdict with
  | none => findings
  | some verdict => findings.put node verdict

@[simp] theorem putIfFound_none (findings : Findings) (node : String) :
    findings.putIfFound node none = findings := rfl

@[simp] theorem putIfFound_some (findings : Findings) (node : String) (verdict : Verdict) :
    findings.putIfFound node (some verdict) = findings.put node verdict := rfl

end Findings

namespace Checker

/-- Checking one node of a survey; one that takes no new pods has no verdict. -/
def surveyNode
    (checker : Checker)
    (reserved : Reservation)
    (basePath : Text)
    (node : String) : Action (Option Verdict) := do
  match ← Action.attempt (checker.checkNode node reserved (some basePath)) with
  | .ok verdict => return some verdict
  | .error (.check (.single cause) earlier) =>
    if cause.kind = .schedulability then
      Action.note .warning (cause.message ++ ". Skipping node")
      return none
    throw (.check (.single cause) earlier)
  | .error failure => throw failure

/-- Checking nodes one after the other, up to the first failure. -/
def surveyInTurn
    (checker : Checker)
    (reserved : Reservation)
    (basePath : Text)
    (findings : Findings) :
    List String → Action Findings
  | [] => return findings
  | node :: others => do
    let verdict ← checker.surveyNode reserved basePath node
    checker.surveyInTurn reserved basePath (findings.putIfFound node verdict) others

/-- Checking all nodes, whatever becomes of them. -/
def surveyAll
    (checker : Checker)
    (reserved : Reservation)
    (basePath : Text) :
    List String → Action (List (String × Except Failure (Option Verdict)))
  | [] => return []
  | node :: others => do
    let outcome ← Action.attempt (checker.surveyNode reserved basePath node)
    let outcomes ← checker.surveyAll reserved basePath others
    return (node, outcome) :: outcomes

/-- The findings of outcomes, unless one of them is a failure. -/
def collect
    (findings : Findings) :
    List (String × Except Failure (Option Verdict)) → Except Failure Findings
  | [] => .ok findings
  | (node, .ok verdict) :: others => collect (findings.putIfFound node verdict) others
  | (_, .error failure) :: _ => .error failure

/-- Checking nodes; if they are checked at once, all of them are begun before any outcome is
looked at. -/
def survey
    (checker : Checker)
    (nodes : List String)
    (reserved : Option Reservation)
    (atOnce : Bool) : Action Findings := do
  let basePath ← checker.basePath
  let reserved ←
    match reserved with
    | some reserved => pure reserved
    | none => Reservation.bytes <$> checker.requiredSpace
  if let some amount := reserved.text? then
    Action.record .info
      (Text.ofString ("Checking " ++ toString nodes.length ++ " node(s) for " ++ amount ++
        " bytes under ") ++ basePath)
  if atOnce then
    match collect [] (← checker.surveyAll reserved basePath nodes) with
    | .ok findings => return findings
    | .error failure => throw failure
  else checker.surveyInTurn reserved basePath [] nodes

end Checker
end Probe
end Headroom
