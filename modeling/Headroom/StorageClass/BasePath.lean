import Headroom.StorageClass.Entry
import Headroom.StorageClass.Error
import Headroom.Yaml.Document

/-!
# The base path of a storage class

The configuration of a storage class is a YAML text in one of its annotations.
All entries must be well formed before any of them is looked at; then the first
entry with the name of the base path gives its value.

The base path must be absolute.
-/

namespace Headroom
namespace StorageClass

/-- The annotation that holds the configuration. -/
def configAnnotation : String := "cas.openebs.io/config"

/-- The name of the entry that gives the base path. -/
def basePathName : Text := Text.ofString "BasePath"

/-- The annotations of an object; an annotation may lack a value. -/
abbrev Annotations := List (String × Option String)

open Schema in
/-- The entry at an index of a list. -/
def entryAt
    (index : Nat) :
    Option Fields → Checked Entry
  | none => .error [⟨[.index index], .notRecord⟩]
  | some fields => .inside (.index index) (Entry.ofFields fields)

open Schema in
/-- The entries that a document lists; an empty document lists none. -/
def entriesOfOutline : Yaml.Outline → Checked (List Entry)
  | .empty => .ok []
  | .other => .error [⟨[], .notList⟩]
  | .items items =>
    Checked.sequence (items.zipIdx.map fun (item, index) => entryAt index item)

/-- The entries of a configuration. -/
def entries
    (limits : Yaml.Limits)
    (configuration : List Char) :
    Except Error (List Entry) :=
  match Yaml.load limits configuration with
  | .error .malformed => .error (.rejected (.unreadable .malformedText))
  | .error fault => .error (.undefinedScalar fault)
  | .ok outline =>
    match entriesOfOutline outline with
    | .error issues => .error (.rejected (.unreadable (.issues issues)))
    | .ok entries => .ok entries

/-- The base path that entries give. -/
def basePathOfEntries (entries : List Entry) : Except Error Text :=
  match Entry.lookup? basePathName entries with
  | none => .error (.rejected .basePathUndefined)
  | some path =>
    if path.startsWith '/' then .ok path else .error (.rejected (.basePathRelative path))

/-- The base path of a storage class with given annotations. -/
def basePath
    (limits : Yaml.Limits)
    (annotations : Annotations) :
    Except Error Text :=
  match (annotations.lookup configAnnotation).join with
  | none => .error (.rejected .annotationMissing)
  | some configuration => do basePathOfEntries (← entries limits configuration.toList)

end StorageClass
end Headroom
