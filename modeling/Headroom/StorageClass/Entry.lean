import Headroom.Binary64.Shortest
import Headroom.Schema.Datum

/-!
# Entries of a storage class

The configuration of a storage class is a list of entries, each a name with a
value.  Names are texts; values are texts too, but numbers and truth values are
accepted and written out, since they are what an unquoted text may turn into.

A missing value is the empty text, a missing name is an issue, and further
fields mean nothing.
-/

namespace Headroom

/-- A name and a value. -/
structure Entry where
  name : Text
  value : Text
deriving DecidableEq, Repr

namespace Entry

open Schema

/-- An integer written out, if it is not too long to be. -/
def integerText (value : Int) : Except Problem Text :=
  ((Numeral.text? value).map Text.ofString).elim (.error .unwritableInteger) .ok

/-- A datum read as the value of an entry. -/
def readValue : Datum → Except Problem Text
  | .truth value => .ok (Text.ofString (if value then "True" else "False"))
  | .integer value => integerText value
  | .real value => .ok (Text.ofChars value.text)
  | datum => datum.asText

/-- The entry that a record describes. -/
def ofFields (fields : Fields) : Checked Entry :=
  (Checked.apply (.ok Entry.mk)
    (fields.required "name" Datum.asText)).apply
    (fields.optional "value" [] readValue)

/-- The value of the first entry with a given name. -/
def lookup?
    (name : Text)
    (entries : List Entry) :
    Option Text :=
  (entries.find? fun entry => entry.name == name).map (·.value)

end Entry
end Headroom
