import Headroom.Text.CodePoint

/-!
# The mount point of a path

A mount point contains itself and every path that continues it with a slash,
its own trailing slashes not counted.  Of several mount points that contain a
path the longest one holds it, the first of equally long ones.

A path lies on the root volume when no mount point contains it, or when the
root itself does.
-/

namespace Headroom

/-- The separator of path components. -/
def slash : CodePoint := .scalar '/'

/-- A path without its trailing slashes. -/
def withoutTrailingSlashes (path : Text) : Text :=
  (path.reverse.dropWhile (· == slash)).reverse

/-- Whether a mount point contains a path. -/
def contains
    (mountPoint path : Text) : Bool :=
  path == mountPoint || (withoutTrailingSlashes mountPoint ++ [slash]).isPrefixOf path

/-- The longer of two mount points, the one found earlier if they are equally long. -/
def longerMountPoint
    (found : Option Text)
    (candidate : Text) :
    Option Text :=
  match found with
  | none => some candidate
  | some longest => if longest.length < candidate.length then some candidate else some longest

/-- The mount point that holds a path. -/
def mountPointFor?
    (path : Text)
    (mountPoints : List Text) :
    Option Text :=
  (mountPoints.filter (contains · path)).foldl longerMountPoint none

/-- Whether a path lies on the root volume. -/
def isRootVolume
    (path : Text)
    (mountPoints : List Text) : Bool :=
  match mountPointFor? path mountPoints with
  | none => true
  | some mountPoint => mountPoint == [slash]

end Headroom
