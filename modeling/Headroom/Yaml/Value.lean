import Headroom.Binary64.Reader
import Headroom.Yaml.Base64
import Headroom.Yaml.Graph

/-!
# Values of nodes

The value of a scalar is computed from its text and its tag; a collection is its
own value and is filled later, so a collection may contain itself.

Integers and numbers may be written in base sixty, with colons between the
digits.  A tag may be given to a text that does not have its form, and then the
text may turn out to denote nothing.
-/

namespace Headroom
namespace Yaml

/-- The value of a node. -/
inductive Value
  | null
  | truth (value : Bool)
  | integer (value : Int)
  | real (value : Binary64)
  /-- The value that is no number: the common one, or one made for a node. -/
  | undefinedNumber (node : Option NodeId)
  | text (value : Text)
  | bytes (value : List UInt8)
  | timestamp (value : Timestamp)
  | list (node : NodeId)
  | pairs (node : NodeId)
  | record (node : NodeId)
  | set (node : NodeId)
deriving DecidableEq, Repr

namespace Value

/-- Whether a value is a collection. -/
def isCollection : Value → Bool
  | .list _ | .pairs _ | .record _ | .set _ => true
  | _ => false

/-- The characters of a text, a mark standing for each surrogate. -/
def markedChars (text : Text) : List Char :=
  text.map fun point => point.char?.getD '?'

/-- A text without its underscores. -/
def withoutUnderscores (text : Text) : List Char :=
  (markedChars text).filter (· ≠ '_')

/-- A text cut at each colon. -/
def colonParts (text : List Char) : List (List Char) :=
  text.foldr
    (fun char parts =>
      match parts with
      | [] => [[char]]
      | first :: others => if char = ':' then [] :: first :: others else (char :: first) :: others)
    [[]]

/-- An integer in a radix, or the fault of not being one. -/
def radixInteger
    (radix : Nat)
    (text : List Char) :
    Except Fault Int :=
  (Numeral.integer? radix text).elim (.error .unreadableNumber) .ok

/-- The magnitude that a text without its sign denotes. -/
def magnitude (text : List Char) : Except Fault Int :=
  match text with
  | [] => .error .missingDigits
  | ['0'] => .ok 0
  | '0' :: 'b' :: digits => radixInteger 2 digits
  | '0' :: 'x' :: digits => radixInteger 16 digits
  | '0' :: digits => radixInteger 8 ('0' :: digits)
  | text =>
    if text.contains ':' then do
      let digits ← (colonParts text).mapM (radixInteger 10)
      return digits.foldl (fun value digit => value * 60 + digit) 0
    else radixInteger 10 text

/-- The integer that a scalar denotes. -/
def integerOf (text : Text) : Except Fault Int := do
  let text := withoutUnderscores text
  if text.isEmpty then throw .missingDigits
  let (negative, body) := Numeral.splitSign text
  let value ← magnitude body
  return if negative then -value else value

/-- A number in decimal, or the fault of not being one. -/
def decimalReal (text : List Char) : Except Fault Binary64 :=
  let plain := (trim Numeral.isPadding text).map Decimal.plainDigit
  (Binary64.read? plain).elim (.error .unreadableNumber) .ok

/-- A power of sixty as a binary number, unless it is too large to be one. -/
def sixtyTo (exponent : Nat) : Except Fault Binary64 :=
  match Binary64.ofInt ((Nat.pow 60 exponent : Nat) : Int) with
  | .infinite _ => .error .hugeNumber
  | power => .ok power

/-- The number with given digits in base sixty, the last digit first. -/
def sexagesimal
    (value : Binary64)
    (exponent : Nat) :
    List Binary64 → Except Fault Binary64
  | [] => .ok value
  | digit :: others => do
    let power ← sixtyTo exponent
    sexagesimal (value.add (digit.mul power)) (exponent + 1) others

/-- The size of the number that a text without its sign denotes. -/
def realMagnitude (text : List Char) : Except Fault Binary64 :=
  if text.contains ':' then do
    let digits ← (colonParts text).mapM decimalReal
    sexagesimal (.ofInt 0) 0 digits.reverse
  else decimalReal text

/-- The number that a scalar denotes. -/
def realOf
    (node : NodeId)
    (text : Text) :
    Except Fault Value := do
  let text := (withoutUnderscores text).map Char.toLower
  if text.isEmpty then throw .missingDigits
  let (negative, body) := Numeral.splitSign text
  if body = ".inf".toList then return .real (.infinite negative)
  if body = ".nan".toList then return .undefinedNumber none
  match ← realMagnitude body with
  | .notANumber => return .undefinedNumber (some node)
  | value => return .real (if negative then value.neg else value)

/-- The truth value that a scalar denotes. -/
def truthOf (text : Text) : Except Fault Bool :=
  let word := String.ofList ((markedChars text).map Char.toLower)
  if ["yes", "true", "on"].contains word then .ok true
  else if ["no", "false", "off"].contains word then .ok false
  else .error .unknownTruthWord

/-- The timestamp that a scalar denotes; one line end at its end does not count. -/
def timestampOf (text : Text) : Except Fault Timestamp :=
  let chars := markedChars text
  let chars := if chars.getLast? = some '\n' then chars.dropLast else chars
  match Timestamp.parts? chars with
  | none => .error .unreadableTimestamp
  | some parts => (Timestamp.ofParts? parts).elim (.error .noSuchDate) .ok

/-- The bytes that a scalar denotes. -/
def bytesOf (text : Text) : Except Fault (List UInt8) :=
  match text.chars? with
  | none => .error .malformed
  | some chars =>
    if chars.all (·.toNat < 0x80) then (Base64.decode? chars).elim (.error .malformed) .ok
    else .error .malformed

end Value

namespace Graph

/-- The node with a number. -/
def node
    (graph : Graph)
    (id : NodeId) : Node :=
  graph[id]?.getD { tag := .other, content := .scalar [] }

/-- The text of a scalar; a mapping with a default value stands for that value, up to a limit. -/
def scalarText
    (graph : Graph)
    (limit : Nat)
    (id : NodeId) :
    Except Fault Text :=
  match (graph.node id).content with
  | .scalar value => .ok value
  | .sequence _ => .error .malformed
  | .mapping pairs =>
    match pairs.find? fun (key, _) => (graph.node key).tag == .value, limit with
    | none, _ => .error .malformed
    | some _, 0 => .error .tooDeep
    | some (_, value), limit + 1 => graph.scalarText limit value

/-- The value of a node, a collection being its own. -/
def value
    (graph : Graph)
    (limits : Limits)
    (id : NodeId) :
    Except Fault Value := do
  let text := graph.scalarText limits.defaults id
  match (graph.node id).tag with
  | .null => return (← text.map fun _ => .null)
  | .truth => return .truth (← Value.truthOf (← text))
  | .integer => return .integer (← Value.integerOf (← text))
  | .real => Value.realOf id (← text)
  | .binary => return .bytes (← Value.bytesOf (← text))
  | .timestamp =>
    let text ← text
    match (graph.node id).content with
    | .scalar _ => return .timestamp (← Value.timestampOf text)
    | _ => throw .timestampOfRecord
  | .text => return .text (← text)
  | .orderedMapping | .pairs => return .pairs id
  | .set => return .set id
  | .sequence => return .list id
  | .mapping => return .record id
  | .merge | .value | .other => throw .malformed

end Graph
end Yaml
end Headroom
