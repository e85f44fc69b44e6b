import Headroom.Report.Error
import Headroom.Text.Rows

/-!
# Mount tables

Each row of a mount table names a device and then the place where it is
mounted.  Comments, rows of one word and rows whose second word is no absolute
path (swap space, for one) do not mount anything.

The mount points are listed in the order of their first appearance.
-/

namespace Headroom
namespace Report

/-- The mount point that a row states. -/
def mountPoint? : List (List Char) → Option (List Char)
  | device :: place :: _ =>
    if device.head? ≠ some '#' ∧ place.head? = some '/' then some place else none
  | _ => none

/-- A list with an item at its end, unless it holds the item already. -/
def insertLast
    {α : Type}
    [DecidableEq α]
    (items : List α)
    (item : α) :
    List α :=
  if item ∈ items then items else items ++ [item]

/-- The distinct mount points that rows state, in order of first appearance. -/
def mountPointsOfRows (rows : List (List (List Char))) : List (List Char) :=
  (rows.filterMap mountPoint?).foldl insertLast []

/-- The mount points that a table states, of which there must be one. -/
def mountPoints (table : List Char) : Except Error (List (List Char)) :=
  match mountPointsOfRows (textRows table) with
  | [] => .error (.malformed .noMountPoint)
  | first :: others => .ok (first :: others)

end Report
end Headroom
