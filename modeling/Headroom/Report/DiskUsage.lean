import Headroom.Report.Error
import Headroom.Text.Rows

/-!
# Disk usage

The table of mounted file systems has the mount point in the last column of
each row, before it the share in use, and before that the available and the
used bytes.  Rows are read from their end, because device names may be absent,
wrapped or prefixed.

The first row of at least five words that ends in the wanted mount path
decides; its two counts must be plain decimal numbers.
-/

namespace Headroom
namespace Report

/-- The bytes that are free and in use on a file system. -/
structure DiskUsage where
  free : Nat
  used : Nat
deriving DecidableEq, Repr

/-- The mount path used when none is given. -/
def defaultMountPath : List Char := "/data".toList

/-- Whether a word is a plain decimal number. -/
def isCount (word : List Char) : Bool :=
  !word.isEmpty && word.all isAsciiDigit

/-- The number of bytes that a word of the named column states. -/
def byteCount
    (column : String)
    (word : List Char) :
    Except Error Nat :=
  if isCount word then
    if word.length ≤ Numeral.maximumDigits then .ok (naturalOfDigits word)
    else .error .oversizedCount
  else .error (.malformed (.unreadableCount word column))

/-- The available and the used column of a row about the given mount path. -/
def usageColumns?
    (mountPath : List Char)
    (row : List (List Char)) :
    Option (List Char × List Char) :=
  match row.reverse with
  | mounted :: _ :: available :: used :: _ :: _ =>
    if mounted = mountPath then some (available, used) else none
  | _ => none

/-- The disk usage that a table states for a mount path. -/
def diskUsage
    (mountPath : List Char)
    (table : List Char) :
    Except Error DiskUsage :=
  match (textRows table).findSome? (usageColumns? mountPath) with
  | none => .error (.malformed .volumeNotListed)
  | some (available, used) => do
    let free ← byteCount "available" available
    let used ← byteCount "used" used
    return { free, used }

end Report
end Headroom
