/-!
# Names of probe resources

A resource that probes a node is named after the node and ends in a suffix of
five letters and digits, by which resources of the same node are told apart.
Names that are too long lose their middle, so that the start of the node's name
and the whole suffix stay.

A cut that falls beside a separator takes the separators around it away and
leaves a single dash in their place.
-/

namespace Headroom
namespace Name

/-- The greatest length of a name. -/
def maximumLength : Nat := 63

/-- What the name of every probe resource begins with. -/
def stem : List Char := "disk-free".toList

/-- Whether a character separates the parts of a name. -/
def isSeparator (char : Char) : Bool :=
  char == '-' || char == '.'

/-- Two parts of a name put together, separators at the seam becoming one dash. -/
def join (head tail : List Char) : List Char :=
  if head.getLast?.any isSeparator || tail.head?.any isSeparator then
    (head.reverse.dropWhile isSeparator).reverse ++ '-' :: tail.dropWhile isSeparator
  else
    head ++ tail

/-- The first characters of a list; a negative number leaves out so many at the end. -/
def takeFirst
    (count : Int)
    (chars : List Char) :
    List Char :=
  if 0 ≤ count then chars.take count.toNat
  else chars.take (chars.length - (-count).toNat)

/-- The last characters of a list; a number that is not positive leaves out so many at the start. -/
def takeLast
    (count : Int)
    (chars : List Char) :
    List Char :=
  if 0 < count then chars.drop (chars.length - count.toNat)
  else chars.drop (-count).toNat

/-- The start of a name that is kept when the name is shortened. -/
def keptHead
    (limit : Int)
    (name : List Char) :
    List Char :=
  takeFirst (limit / 2) name

/-- The end of a name that is kept when the name is shortened. -/
def keptTail
    (limit : Int)
    (name : List Char) :
    List Char :=
  takeLast (limit - limit / 2) name

/-- A name without its middle, if it is longer than the limit. -/
def shorten
    (limit : Int)
    (name : List Char) :
    List Char :=
  if (name.length : Int) ≤ limit then name
  else join (keptHead limit name) (keptTail limit name)

/-- A shortened name, unless shortening leaves nothing of its start. -/
def shorten?
    (limit : Int)
    (name : List Char) :
    Option (List Char) :=
  if limit < (name.length : Int) ∧ keptHead limit name = [] then none
  else some (shorten limit name)

theorem shorten_of_length_le
    {limit : Int}
    {name : List Char}
    (fits : (name.length : Int) ≤ limit) :
    shorten limit name = name := by
  simp [shorten, fits]

/-- The characters of which suffixes are made. -/
def suffixAlphabet : List Char := "abcdefghijklmnopqrstuvwxyz0123456789".toList

/-- The letter or digit that stands for a number below thirty-six. -/
def suffixChar (value : Nat) : Char :=
  suffixAlphabet.getD (value % 36) 'a'

/-- The last characters of a number written in base thirty-six. -/
def suffixOfLength : Nat → Nat → List Char
  | 0, _ => []
  | length + 1, number => suffixOfLength length (number / 36) ++ [suffixChar number]

/-- The suffix drawn after a given number of others. -/
def suffix (drawn : Nat) : List Char :=
  suffixOfLength 5 drawn

/-- The name of a resource that probes a node, before it is shortened. -/
def unshortened
    (node suffix : List Char) :
    List Char :=
  stem ++ '-' :: node ++ '-' :: suffix

/-- The name of a resource that probes a node. -/
def probe
    (node : String)
    (suffix : List Char) :
    String :=
  String.ofList (shorten maximumLength (unshortened node.toList suffix))

end Name
end Headroom
