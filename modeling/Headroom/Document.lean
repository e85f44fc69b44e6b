import Headroom.Text.CodePoint

/-!
# Documents

A resource is handed to the cluster as a document: nested records and lists
whose leaves are texts, whole numbers and truth values.

The fields of a record are kept in the order in which they are written.
-/

namespace Headroom

/-- A tree of records and lists. -/
inductive Document
  | truth (value : Bool)
  | number (value : Int)
  | text (value : Text)
  | list (items : List Document)
  | record (fields : List (String × Document))

namespace Document

/-- A leaf that holds a string. -/
def string (value : String) : Document :=
  .text (Text.ofString value)

/-- A record with one field. -/
def single
    (name : String)
    (value : Document) : Document :=
  .record [(name, value)]

end Document
end Headroom
