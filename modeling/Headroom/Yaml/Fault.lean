/-!
# Faults of YAML texts

Most texts that cannot be read are malformed: they break a rule of the format,
or one of their nodes cannot be given a value.

A few scalars pass every rule of the format and still denote nothing, because a
number, a date or a code point in them is out of its range or not spelled out.
Each kind of those has a name of its own.

Reading goes as deep as a text leads it, and it is given up where that is too deep.
-/

namespace Headroom
namespace Yaml

/-- Why a text has no value. -/
inductive Fault
  | malformed
  | noSuchCodePoint
  | hugeCodePoint
  | unreadableNumber
  | missingDigits
  | hugeNumber
  | unknownTruthWord
  | unreadableTimestamp
  | noSuchDate
  | timestampOfRecord
  | tooDeep
deriving DecidableEq, Repr

/-- How deep reading may go before it is given up.  That depends on the machine and on whoever
asks for it, and nothing is said about it here. -/
structure Limits where
  /-- How many collections may be open at once. -/
  collections : Nat
  /-- How many mappings may be merged one inside the other. -/
  merges : Nat
  /-- How many default values may follow one another. -/
  defaults : Nat
deriving DecidableEq, Repr

/-- The limits used when nothing else is asked for. -/
def Limits.usual : Limits :=
  { collections := 490, merges := 980, defaults := 980 }

end Yaml
end Headroom
