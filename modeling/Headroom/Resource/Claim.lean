import Headroom.Document
import Headroom.Resource.Name

/-!
# Volume claims

A probe asks for the smallest volume that the destination storage class can
provide, by a claim labelled as the probe's own.

The claim is named after the node that it probes; the storage class alone
decides where its volume lies.
-/

namespace Headroom

/-- The label carried by every resource of a probe. -/
def probeLabel : String := "clusterspace.io/probe"

/-- The labels of a resource of a probe. -/
def probeLabels : Document :=
  .single probeLabel (.string "true")

/-- The namespace used when none is given. -/
def defaultNamespace : String := "default"

/-- A claim on a temporary volume. -/
structure Claim where
  name : String
  namespaceName : String
  storageClass : String
deriving DecidableEq, Repr

namespace Claim

/-- How much room a temporary volume asks for. -/
def size : String := "1Mi"

/-- The claim that probes a node. -/
def forNode
    (node storageClass : String)
    (namespaceName : String)
    (suffix : List Char) : Claim :=
  { name := Name.probe node suffix, namespaceName, storageClass }

/-- The document by which a claim is created. -/
def document (claim : Claim) : Document :=
  .record [
    ("apiVersion", .string "v1"),
    ("kind", .string "PersistentVolumeClaim"),
    ("metadata", .record [
      ("name", .string claim.name),
      ("namespace", .string claim.namespaceName),
      ("labels", probeLabels)]),
    ("spec", .record [
      ("storageClassName", .string claim.storageClass),
      ("accessModes", .list [.string "ReadWriteOnce"]),
      ("resources", .single "requests" (.single "storage" (.string size)))])]

end Claim
end Headroom
