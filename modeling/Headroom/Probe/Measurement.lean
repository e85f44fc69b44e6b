import Headroom.Probe.Checker
import Headroom.Report.MountPoint
import Headroom.Report.MountTable
import Headroom.Verdict

/-!
# Measuring a node

A node is measured by a job that mounts a temporary volume of the destination
class on it.  The job's two containers report the disk usage behind the volume
and the mount table of the node.

Once a measurement has begun, its job and its claim are removed in any case.
-/

namespace Headroom
namespace Probe
namespace Checker

open Cluster

/-- Whether a job has succeeded; one that has failed ends the measurement. -/
def askSucceeded
    (checker : Checker)
    (job : String) : Action (Option Unit) := do
  match ← Action.request (.readJobStatus checker.namespaceName job) with
  | none => return none
  | some status =>
    if status.failed ≠ 0 then Action.fail (.jobFailed job)
    return if status.succeeded ≠ 0 then some () else none

/-- Waiting until a job has succeeded; the name of its first pod, if that has one. -/
def waitJob
    (checker : Checker)
    (job : String) : Action (Option String) := do
  pollFor (.readJobStatus checker.namespaceName job) (checker.askSucceeded job) (.jobTimeout job)
    checker.pollInterval checker.jobTimeout
  match ← Action.request (.listPods checker.namespaceName job) with
  | [] => Action.fail (.podMissing job)
  | pod :: _ => return pod

/-- The log of a container of a pod. -/
def podLog
    (checker : Checker)
    (pod : Option String)
    (container : String) : Action String :=
  Action.request (.readLog checker.namespaceName pod container)

/-- The sample that two reports describe. -/
def sampleOfReports
    (checker : Checker)
    (basePath : Text)
    (usageReport mountsReport : String) :
    Except Report.Error Sample := do
  let usage ← Report.diskUsage checker.mountPath.toList usageReport.toList
  let mountPoints ← Report.mountPoints mountsReport.toList
  return {
    free := usage.free
    used := usage.used
    rootVolume := isRootVolume basePath (mountPoints.map Text.ofChars) }

/-- Running a probe job on a claim and reading its reports. -/
def measure
    (checker : Checker)
    (claim : Claim)
    (job : Job)
    (basePath : Text) : Action Sample := do
  Action.note .info ("Creating temporary pvc " ++ claim.name)
  Action.request (.createClaim checker.namespaceName claim)
  Action.note .info ("Creating probe job " ++ job.name)
  Action.request (.createJob checker.namespaceName job)
  let pod ← checker.waitJob job.name
  let usageReport ← checker.podLog pod Container.usage.name
  let mountsReport ← checker.podLog pod Container.mounts.name
  Action.note .debug ("df output:\n" ++ usageReport)
  Action.note .debug ("fstab output:\n" ++ mountsReport)
  match checker.sampleOfReports basePath usageReport mountsReport with
  | .ok sample => return sample
  | .error error => throw (.ofReport error)

/-- Removing a job and then a claim. -/
def cleanup
    (checker : Checker)
    (claim : Claim)
    (job : Job) : Action Unit := do
  Action.note .info ("Deleting probe job " ++ job.name)
  discard (Action.requestIfFound (.deleteJob checker.namespaceName job.name))
  checker.reclaimer.deleteClaims
    [{ name := some claim.name, namespaceName := some claim.namespaceName }]

/-- The claim and the job of a new probe of a node. -/
def prepare
    (checker : Checker)
    (node : String)
    (basePath : Text) : Action (Claim × Job) := do
  let claim :=
    Claim.forNode node checker.destinationClass checker.namespaceName (← Action.drawSuffix)
  let job :=
    Job.forNode node basePath claim.name checker.image checker.namespaceName checker.mountPath
      (← Action.drawSuffix)
  return (claim, job)

/-- A truth value as a record shows it. -/
def truthText (value : Bool) : String :=
  if value then "True" else "False"

/-- The verdict on a node with a sample, if its space can be compared with the reservation. -/
def judge
    (node : String)
    (reserved : Reservation)
    (sample : Sample) : Action Verdict := do
  match sample.covers? reserved with
  | none => throw (.foreign .incomparable)
  | some hasSpace =>
    if let some amount := reserved.text? then
      Action.note .info
        ("Node " ++ node ++ ": " ++ toString sample.free ++ " bytes free, " ++ amount ++
          " reserved, enough space: " ++ truthText hasSpace)
    return { node, free := sample.free, hasSpace }

/-- Probing a node whose base path is known. -/
def probe
    (checker : Checker)
    (node : String)
    (reserved : Reservation)
    (basePath : Text) : Action Verdict := do
  requireSchedulable (← Action.request (.readNode node))
  let (claim, job) ← checker.prepare node basePath
  let sample ←
    Action.thenAlways (checker.measure claim job basePath) (checker.cleanup claim job)
  judge node reserved sample

/-- Checking a node; its base path is looked up if it is not given. -/
def checkNode
    (checker : Checker)
    (node : String)
    (reserved : Reservation)
    (basePath : Option Text) : Action Verdict := do
  match basePath with
  | some path => checker.probe node reserved path
  | none => checker.probe node reserved (← checker.basePath)

end Checker
end Probe
end Headroom
