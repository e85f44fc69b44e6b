import Headroom.Cluster.Object
import Headroom.Resource.Job

/-!
# Calls to a cluster

A call is a request with its arguments.  Its method decides what kind of answer
it gets; its argument is the name that it is about, by which answers may be
told apart.

Each call has a wording for the case that it fails.
-/

namespace Headroom
namespace Cluster

/-- What can be asked of a cluster. -/
inductive Method
  | readStorageClass
  | readNode
  | listVolumes
  | readVolume
  | createClaim
  | deleteClaim
  | createJob
  | readJobStatus
  | deleteJob
  | listPods
  | readLog
deriving DecidableEq, Repr

/-- What a successful answer to a method holds. -/
@[reducible] def Method.Reply : Method → Type
  | .readStorageClass => StorageClass
  | .readNode => Node
  | .listVolumes => List Volume
  | .readVolume => Unit
  | .createClaim => Unit
  | .deleteClaim => Unit
  | .createJob => Unit
  | .readJobStatus => Option JobStatus
  | .deleteJob => Unit
  | .listPods => List (Option String)
  | .readLog => String

/-- A request with its arguments. -/
inductive Call
  | readStorageClass (name : String)
  | readNode (name : String)
  | listVolumes
  | readVolume (name : String)
  | createClaim (namespaceName : String) (claim : Claim)
  | deleteClaim (claim : Reference)
  | createJob (namespaceName : String) (job : Job)
  | readJobStatus (namespaceName job : String)
  | deleteJob (namespaceName job : String)
  | listPods (namespaceName job : String)
  | readLog (namespaceName : String) (pod : Option String) (container : String)
deriving DecidableEq, Repr

/-- The text of a name that may be absent. -/
def nameText (name : Option String) : String :=
  name.getD "None"

/-- The label selector that picks the pods of a job. -/
def jobSelector (job : String) : String :=
  "job-name=" ++ job

namespace Call

/-- The method of a call. -/
@[reducible] def method : Call → Method
  | .readStorageClass _ => .readStorageClass
  | .readNode _ => .readNode
  | .listVolumes => .listVolumes
  | .readVolume _ => .readVolume
  | .createClaim _ _ => .createClaim
  | .deleteClaim _ => .deleteClaim
  | .createJob _ _ => .createJob
  | .readJobStatus _ _ => .readJobStatus
  | .deleteJob _ _ => .deleteJob
  | .listPods _ _ => .listPods
  | .readLog _ _ _ => .readLog

/-- What a successful answer to a call holds. -/
@[reducible] def Reply (call : Call) : Type :=
  call.method.Reply

/-- The name that a call is about. -/
def argument : Call → String
  | .readStorageClass name => name
  | .readNode name => name
  | .listVolumes => ""
  | .readVolume name => name
  | .createClaim _ claim => claim.name
  | .deleteClaim claim => nameText claim.name
  | .createJob _ job => job.name
  | .readJobStatus _ job => job
  | .deleteJob _ job => job
  | .listPods _ job => jobSelector job
  | .readLog _ _ container => container

/-- The wording of the failure of a call. -/
def failureText : Call → String
  | .readStorageClass name => "failed to get destination storage class " ++ name
  | .readNode name => "failed to get node " ++ name
  | .listVolumes => "failed to list pvs"
  | .readVolume name => "failed to get pv " ++ name
  | .createClaim _ claim => "failed to create pvc " ++ claim.name
  | .deleteClaim claim =>
    "failed to delete pvc " ++ nameText claim.namespaceName ++ "/" ++ nameText claim.name
  | .createJob _ job => "failed to create job " ++ job.name
  | .readJobStatus _ job => "failed to get job " ++ job
  | .deleteJob _ job => "failed to delete job " ++ job
  | .listPods _ job => "failed to list pods of job " ++ job
  | .readLog _ pod container =>
    "failed to read " ++ container ++ " logs of pod " ++ nameText pod

end Call
end Cluster
end Headroom
