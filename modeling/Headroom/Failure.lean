import Headroom.Cluster.Call
import Headroom.Quantity
import Headroom.Report.Error

/-!
# Failures of a check

A failure that a check accounts for has a cause, of which there is a fixed list,
and a kind, by which callers tell failures apart.  When several claims could not
be removed, one failure carries the causes of all of them.

A failure may arise while an earlier one is being dealt with; it then carries
the earlier ones along, the most recent first.  Faults that a check does not
account for pass through it as they are.
-/

namespace Headroom

/-- The kinds of failures that a check accounts for. -/
inductive Kind
  | general
  | configuration
  | schedulability
  | report
  | timeout
  | deletionTimeout
  | cancelled
  | request
  | job
  | cleanup
deriving DecidableEq, Repr

/-- The kind that a kind is a special case of. -/
def Kind.parent? : Kind → Option Kind
  | .general => none
  | .deletionTimeout => some .timeout
  | .job => some .request
  | _ => some .general

/-- A kind and the kinds that it is a special case of, the most general one last. -/
def Kind.lineage (kind : Kind) : List Kind :=
  let parents := kind.parent?.toList
  kind :: parents ++ parents.flatMap fun parent => parent.parent?.toList

/-- Why a check fails. -/
inductive Cause
  | noLogger
  | emptyImage
  | emptySourceClass
  | emptyDestinationClass
  | storageClassNotFound (name : String)
  | storageClassRejected (reason : StorageClass.Rejection)
  | unschedulable (node : Option String) (marker : String)
  | malformedReport (reason : Report.Malformed)
  | jobTimeout (job : String)
  | deletionTimeout (volume : String)
  | cancelled
  | requestFailed (call : Cluster.Call) (reason : Option String)
  | jobFailed (job : String)
  | podMissing (job : String)
  /-- A cause in the words of the caller. -/
  | worded (kind : Kind) (message node marker volume : String)
deriving DecidableEq, Repr

namespace Cause

/-- The kind of a cause. -/
def kind : Cause → Kind
  | .noLogger | .emptyImage | .emptySourceClass | .emptyDestinationClass => .configuration
  | .storageClassNotFound _ | .storageClassRejected _ => .configuration
  | .unschedulable _ _ => .schedulability
  | .malformedReport _ => .report
  | .jobTimeout _ => .timeout
  | .deletionTimeout _ => .deletionTimeout
  | .cancelled => .cancelled
  | .requestFailed _ _ => .request
  | .jobFailed _ | .podMissing _ => .job
  | .worded kind _ _ _ _ => kind

/-- The wording of a cause. -/
def message : Cause → String
  | .noLogger => "no logger provided"
  | .emptyImage => "empty image"
  | .emptySourceClass => "empty source storage class"
  | .emptyDestinationClass => "empty destination storage class"
  | .storageClassNotFound name =>
    "failed to get destination storage class: storageclasses.storage.k8s.io \"" ++ name ++
      "\" not found"
  | .storageClassRejected reason => reason.message
  | .unschedulable node marker =>
    "node " ++ Cluster.nameText node ++ " is not schedulable: " ++ marker
  | .malformedReport reason => reason.message
  | .jobTimeout job => "timeout waiting for job " ++ job ++ " to complete"
  | .deletionTimeout volume => "timeout waiting for pv " ++ volume ++ " to be deleted"
  | .cancelled => "context cancelled"
  | .requestFailed call reason => call.failureText ++ ": " ++ Cluster.nameText reason
  | .jobFailed job => "probe job " ++ job ++ " failed"
  | .podMissing job => "no pod found for job " ++ job
  | .worded _ message _ _ _ => message

/-- The node and the marker that a cause of unschedulability is about. -/
def nodeAndMarker : Cause → String × String
  | .unschedulable node marker => (node.getD "", marker)
  | .worded _ _ node marker _ => (node, marker)
  | _ => ("", "")

/-- The volume that a cause is about. -/
def volume : Cause → String
  | .deletionTimeout volume => volume
  | .worded _ _ _ _ volume => volume
  | _ => ""

end Cause

/-- A failure that a check accounts for. -/
inductive CheckError
  | single (cause : Cause)
  /-- Several claims could not be removed. -/
  | cleanup (causes : List Cause)
deriving DecidableEq, Repr

namespace CheckError

/-- The kind of a failure. -/
def kind : CheckError → Kind
  | .single cause => cause.kind
  | .cleanup _ => .cleanup

/-- The wording of a failure. -/
def message : CheckError → String
  | .single cause => cause.message
  | .cleanup causes =>
    "failed to delete temporary pvcs: " ++ String.intercalate "; " (causes.map Cause.message)

end CheckError

/-- A fault that a check does not account for. -/
inductive Foreign
  | crashed (text : String)
  | oversizedCount
  | quantity (error : Quantity.Error)
  | undefinedScalar (fault : Yaml.Fault)
  /-- The space of a node was to be compared with a reservation without an amount. -/
  | incomparable
deriving DecidableEq, Repr

/-- Why a wait cannot be gone through with. -/
inductive Impasse
  /-- What is waited for never comes, and the wait has no end. -/
  | endless
  /-- A pause is longer than anybody can be made to wait. -/
  | overlongPause
deriving DecidableEq, Repr

/-- How an action fails. -/
inductive Failure
  /-- A failure that the check accounts for, and those in whose wake it arose. -/
  | check (error : CheckError) (earlier : List CheckError)
  | foreign (fault : Foreign)
  | impasse (reason : Impasse)
deriving DecidableEq, Repr

namespace Failure

/-- A failure for one cause. -/
def of (cause : Cause) : Failure :=
  .check (.single cause) []

/-- A failure and those in whose wake it arose, as far as the check accounts for them. -/
def chain : Failure → List CheckError
  | .check error earlier => error :: earlier
  | _ => []

/-- A failure that arises while an earlier one is being dealt with. -/
def inWakeOf (earlier : Failure) : Failure → Failure
  | .check error others => .check error (others ++ earlier.chain)
  | failure => failure

/-- A failure to read a report. -/
def ofReport : Report.Error → Failure
  | .malformed reason => .of (.malformedReport reason)
  | .oversizedCount => .foreign .oversizedCount

/-- A failure to find a base path. -/
def ofStorageClass : StorageClass.Error → Failure
  | .rejected reason => .of (.storageClassRejected reason)
  | .undefinedScalar fault => .foreign (.undefinedScalar fault)

@[simp] theorem chain_of (cause : Cause) : (Failure.of cause).chain = [.single cause] := rfl

@[simp] theorem chain_inWakeOf_check
    (earlier : Failure)
    (error : CheckError)
    (others : List CheckError) :
    (inWakeOf earlier (.check error others)).chain = error :: (others ++ earlier.chain) := rfl

end Failure
end Headroom
