import Headroom.Text.Numeral

/-!
# Unreadable reports

A report is malformed when it lacks what is looked for, or when a column that
should hold a number of bytes holds something else.

A number of bytes that is spelled correctly but has more digits than are
converted is kept apart: it is no fault of the report's form.
-/

namespace Headroom
namespace Report

/-- What is wrong with the form of a report. -/
inductive Malformed
  | unreadableCount (word : List Char) (column : String)
  | volumeNotListed
  | noMountPoint
deriving DecidableEq, Repr

/-- Why a report cannot be used. -/
inductive Error
  | malformed (reason : Malformed)
  | oversizedCount
deriving DecidableEq, Repr

/-- The wording of a fault of form. -/
def Malformed.message : Malformed → String
  | .unreadableCount word column =>
    "failed to parse \"" ++ String.ofList word ++ "\" as " ++ column ++ " space"
  | .volumeNotListed => "failed to locate free space info in pod log"
  | .noMountPoint => "failed to locate any mount point"

end Report
end Headroom
