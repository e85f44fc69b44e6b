import Headroom.Resource.Claim

/-!
# Probe jobs

A probe job runs one pod, bound to the probed node, with two containers: one
reports the space of the claimed volume in bytes, the other prints the mount
table of the node.

The base path is noted on the job as an annotation.
-/

namespace Headroom

/-- The containers of the pod of a probe job. -/
inductive Container
  | usage
  | mounts
deriving DecidableEq, Repr

/-- The name of a container. -/
def Container.name : Container → String
  | .usage => "df"
  | .mounts => "fstab"

/-- A job that measures the space behind a claim. -/
structure Job where
  name : String
  namespaceName : String
  node : String
  basePath : Text
  claim : String
  image : String
  mountPath : String
deriving DecidableEq, Repr

namespace Job

/-- The annotation that notes the base path. -/
def basePathAnnotation : String := "clusterspace.io/base-path"

/-- The name of the volume that the claim provides. -/
def claimVolume : String := "tmp"

/-- The name of the volume that shows the mount table. -/
def mountTableVolume : String := "fstab"

/-- The mount table on the node. -/
def mountTablePath : String := "/etc/fstab"

/-- The mount table inside the pod. -/
def mountTableMountPath : String := "/host/etc/fstab"

/-- The job that probes a node. -/
def forNode
    (node : String)
    (basePath : Text)
    (claim image namespaceName mountPath : String)
    (suffix : List Char) : Job :=
  { name := Name.probe node suffix, namespaceName, node, basePath, claim, image, mountPath }

/-- The rule that binds the pod to its node. -/
def affinity (job : Job) : Document :=
  let expression : Document := .record [
    ("key", .string "kubernetes.io/hostname"),
    ("operator", .string "In"),
    ("values", .list [.string job.node])]
  .single "nodeAffinity"
    (.single "requiredDuringSchedulingIgnoredDuringExecution"
      (.single "nodeSelectorTerms" (.list [.single "matchExpressions" (.list [expression])])))

/-- The volumes of the pod. -/
def volumes (job : Job) : Document :=
  .list [
    .record [
      ("name", .string claimVolume),
      ("persistentVolumeClaim", .single "claimName" (.string job.claim))],
    .record [
      ("name", .string mountTableVolume),
      ("hostPath", .record [
        ("path", .string mountTablePath),
        ("type", .string "File")])]]

/-- The command that a container runs. -/
def command (job : Job) : Container → List String
  | .usage => ["df", "-B1", job.mountPath]
  | .mounts => ["cat", mountTableMountPath]

/-- Where a container finds its volume. -/
def volumeMount (job : Job) : Container → Document
  | .usage => .record [
      ("name", .string claimVolume),
      ("mountPath", .string job.mountPath)]
  | .mounts => .record [
      ("name", .string mountTableVolume),
      ("mountPath", .string mountTableMountPath),
      ("readOnly", .truth true)]

/-- The description of a container. -/
def containerDocument
    (job : Job)
    (container : Container) : Document :=
  .record [
    ("name", .string container.name),
    ("image", .string job.image),
    ("command", .list ((job.command container).map .string)),
    ("volumeMounts", .list [job.volumeMount container])]

/-- The document by which a job is created. -/
def document (job : Job) : Document :=
  .record [
    ("apiVersion", .string "batch/v1"),
    ("kind", .string "Job"),
    ("metadata", .record [
      ("name", .string job.name),
      ("namespace", .string job.namespaceName),
      ("labels", probeLabels),
      ("annotations", .single basePathAnnotation (.text job.basePath))]),
    ("spec", .record [
      ("backoffLimit", .number 0),
      ("template", .record [
        ("metadata", .single "labels" probeLabels),
        ("spec", .record [
          ("restartPolicy", .string "Never"),
          ("affinity", job.affinity),
          ("volumes", job.volumes),
          ("containers", .list ([.usage, .mounts].map job.containerDocument))])])])]

end Job
end Headroom
