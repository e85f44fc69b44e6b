import Headroom.StorageClass.BasePath

/-!
# Objects of a cluster

Only what a check looks at is kept of each object: the marks of a node, the
class, the capacity and the claim of a volume, the annotations of a storage
class and the counts of a job.

Parts that an object may lack are optional, names among them.
-/

namespace Headroom
namespace Cluster

/-- A name within a namespace, both of which may be absent. -/
structure Reference where
  name : Option String
  namespaceName : Option String
deriving DecidableEq, Repr

/-- What is said about a node as an object. -/
structure NodeMetadata where
  name : Option String
  annotations : List String
deriving DecidableEq, Repr

/-- A node: its description, and the keys of its taints. -/
structure Node where
  metadata : Option NodeMetadata
  taints : List String
deriving DecidableEq, Repr

/-- A storage class: its annotations, if it is described at all. -/
structure StorageClass where
  annotations : Option Headroom.StorageClass.Annotations
deriving DecidableEq, Repr

/-- What a volume is for. -/
structure VolumeSpec where
  storageClass : Option String
  /-- The quantity of storage that the volume holds. -/
  storage : Option String
  /-- The claim to which the volume is bound. -/
  claim : Option Reference
deriving DecidableEq, Repr

/-- A persistent volume. -/
structure Volume where
  name : String
  spec : Option VolumeSpec
deriving DecidableEq, Repr

/-- How many pods of a job succeeded and failed. -/
structure JobStatus where
  succeeded : Int
  failed : Int
deriving DecidableEq, Repr

end Cluster
end Headroom
