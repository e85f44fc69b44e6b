import Headroom.Binary64.Basic
import Headroom.Decimal.Reader

/-!
# Reading binary numbers

A number is written in decimal, or by the words for infinity and for no number.
It denotes the binary number nearest to it.

Nothing surrounds the number here; what may stand around it is for the reader
of the surrounding format to say.
-/

namespace Headroom
namespace Binary64

/-- The binary number that a text in ASCII denotes. -/
def read? (text : List Char) : Option Binary64 :=
  let (negative, body) := Numeral.splitSign text
  let word := body.map Char.toLower
  if word = "inf".toList ∨ word = "infinity".toList then some (.infinite negative)
  else if word = "nan".toList then some .notANumber
  else (Decimal.finite? negative body).map ofDecimal

end Binary64
end Headroom
