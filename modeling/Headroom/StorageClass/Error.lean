import Headroom.Schema.Issue
import Headroom.Yaml.Fault

/-!
# Unusable storage classes

A storage class is rejected when its configuration is absent, does not have the
form of a list of entries, or names no absolute base path.

A configuration with a scalar that denotes nothing is kept apart from those
that break the rules of its format.
-/

namespace Headroom
namespace StorageClass

/-- Why the text of a configuration is not a list of entries. -/
inductive Unreadable
  | malformedText
  | issues (issues : List Schema.Issue)
deriving DecidableEq, Repr

/-- Why a storage class is rejected. -/
inductive Rejection
  | annotationMissing
  | unreadable (reason : Unreadable)
  | basePathUndefined
  | basePathRelative (path : Text)
deriving DecidableEq, Repr

/-- Why a storage class gives no base path. -/
inductive Error
  | rejected (reason : Rejection)
  | undefinedScalar (fault : Yaml.Fault)
deriving DecidableEq, Repr

/-- The wording of a rejection. -/
def Rejection.message : Rejection → String
  | .annotationMissing => "annotation not found in storage class"
  | .unreadable _ => "failed to parse openebs config annotation"
  | .basePathUndefined => "openebs base path not defined in the storage class"
  | .basePathRelative path => "invalid openebs base path: " ++ path.quoted

end StorageClass
end Headroom
