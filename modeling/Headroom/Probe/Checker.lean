import Headroom.Probe.Reclaim
import Headroom.Report.DiskUsage

/-!
# Checkers

A checker knows where probes run, which storage class is to be left and which is
to be entered, how long to wait and how deep to read.  It can only be made with an
image and two storage classes.

What it needs to know before any probe is the base path of the destination, the
space in use under the source, and whether a node takes new pods at all.

The space in use may be a number too long to be written out; then there is no record
of it.
-/

namespace Headroom
namespace Probe

open Cluster

/-- What a checker is made of. -/
structure Checker where
  /-- How deep the configuration of a storage class may go. -/
  limits : Yaml.Limits
  image : String
  sourceClass : String
  destinationClass : String
  namespaceName : String
  mountPath : String
  pollInterval : Duration
  deletionTimeout : Duration
  jobTimeout : Duration
deriving DecidableEq, Repr

/-- The pause between two polls when none is given. -/
def defaultPollInterval : Duration := .seconds 2

/-- The time to wait for a job or a volume when none is given. -/
def defaultTimeout : Duration := .seconds 300

/-- The reclaimer used when nothing else is asked for. -/
def Reclaimer.default : Reclaimer :=
  { pollInterval := defaultPollInterval, deletionTimeout := defaultTimeout }

/-- The arguments from which a checker is made. -/
structure Arguments where
  /-- Whether there is a logger for the records. -/
  hasLogger : Bool
  limits : Yaml.Limits
  image : Option String
  sourceClass : Option String
  destinationClass : Option String
  namespaceName : String
  mountPath : String
  pollInterval : Duration
  deletionTimeout : Duration
  jobTimeout : Duration
deriving DecidableEq, Repr

namespace Checker

/-- An argument that must be there and not be empty. -/
def nonEmpty
    (cause : Cause)
    (argument : Option String) :
    Except Cause String :=
  match argument with
  | none => .error cause
  | some text => if text = "" then .error cause else .ok text

/-- The checker made from given arguments, the first unusable one being reported. -/
def ofArguments (arguments : Arguments) : Except Cause Checker := do
  if !arguments.hasLogger then throw .noLogger
  let image ← nonEmpty .emptyImage arguments.image
  let sourceClass ← nonEmpty .emptySourceClass arguments.sourceClass
  let destinationClass ← nonEmpty .emptyDestinationClass arguments.destinationClass
  return {
    image, sourceClass, destinationClass
    limits := arguments.limits
    namespaceName := arguments.namespaceName
    mountPath := arguments.mountPath
    pollInterval := arguments.pollInterval
    deletionTimeout := arguments.deletionTimeout
    jobTimeout := arguments.jobTimeout }

/-- The reclaimer with the waiting times of a checker. -/
def reclaimer (checker : Checker) : Reclaimer :=
  { pollInterval := checker.pollInterval, deletionTimeout := checker.deletionTimeout }

/-- The base path of the destination storage class. -/
def basePath (checker : Checker) : Action Text := do
  let call : Call := .readStorageClass checker.destinationClass
  match ← Action.call call with
  | .answered storageClass =>
    match StorageClass.basePath checker.limits (storageClass.annotations.getD []) with
    | .ok path => return path
    | .error error => throw (.ofStorageClass error)
  | .refused status reason =>
    if status = notFound then
      Action.fail (.storageClassNotFound checker.destinationClass)
    else Action.fail (.requestFailed call reason)
  | .unreachable reason => Action.fail (.requestFailed call reason)
  | .crashed text => throw (.foreign (.crashed text))

/-- The marks of nodes that take no new pods, in the order in which they are reported. -/
def unschedulableMarkers : List String :=
  ["node.kubernetes.io/not-ready", "node.kubernetes.io/unreachable",
    "node.kubernetes.io/unschedulable", "node.kubernetes.io/network-unavailable",
    "node.cloudprovider.kubernetes.io/shutdown"]

/-- Whether a node carries a mark, as an annotation or as a taint. -/
def carries
    (node : Node)
    (marker : String) : Bool :=
  ((node.metadata.map (·.annotations)).getD []).contains marker || node.taints.contains marker

/-- The first mark by which a node takes no new pods. -/
def unschedulableMarker? (node : Node) : Option String :=
  unschedulableMarkers.find? (carries node)

/-- A node that takes no new pods is refused. -/
def requireSchedulable (node : Node) : Action Unit :=
  match unschedulableMarker? node with
  | none => return ()
  | some marker => Action.fail (.unschedulable (node.metadata.bind (·.name)) marker)

/-- The quantity of storage of a volume of a class. -/
def storageOf?
    (sourceClass : String)
    (volume : Volume) :
    Option String := do
  let spec ← volume.spec
  guard (spec.storageClass = some sourceClass)
  spec.storage

/-- The sum of quantities in bytes. -/
def totalBytes : List String → Except Quantity.Error Int
  | [] => .ok 0
  | quantity :: others => do
    let bytes ← Quantity.bytes quantity.toList
    return bytes + (← totalBytes others)

/-- The space of the volumes of the source storage class. -/
def requiredSpace (checker : Checker) : Action Int := do
  let volumes ← Action.request .listVolumes
  match totalBytes (volumes.filterMap (storageOf? checker.sourceClass)) with
  | .error error => throw (.foreign (.quantity error))
  | .ok total =>
    if let some text := Numeral.text? total then
      Action.note .debug ("Volumes of " ++ checker.sourceClass ++ " use " ++ text ++ " bytes")
    return total

end Checker
end Probe
end Headroom
