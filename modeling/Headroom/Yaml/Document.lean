import Headroom.Schema.Datum
import Headroom.Yaml.Merge

/-!
# Documents

The values of a document are found collection by collection, in the order in
which the collections are met: first the root, then the collections inside it,
and so on.  The first node without a value decides the fault of the document.

What a form of two levels can see of a document is its outline: whether it is
empty or a list, which items of the list are records, and the fields of those
that have a text for their name.
-/

namespace Headroom
namespace Yaml

/-- The state of finding values. -/
structure Filling where
  limits : Limits
  graph : Graph
  values : Array (Option Value)
  /-- The collections whose contents are not yet looked at. -/
  waiting : List NodeId
  /-- A bound on the number of merges. -/
  merges : Nat

namespace Filling

/-- The state before any value is found. -/
def start
    (limits : Limits)
    (graph : Graph) : Filling :=
  { limits, graph
    values := Array.replicate graph.size none
    waiting := []
    merges := graph.pairCount }

/-- The value found for a node. -/
def value?
    (filling : Filling)
    (id : NodeId) :
    Option Value :=
  (filling.values[id]?).join

/-- The value of a node, and the state in which it is known. -/
def visit
    (filling : Filling)
    (id : NodeId) :
    Except Fault (Value × Filling) :=
  match filling.value? id with
  | some value => .ok (value, filling)
  | none => do
    let value ← filling.graph.value filling.limits id
    let waiting := if value.isCollection then filling.waiting ++ [id] else filling.waiting
    return (value, { filling with values := filling.values.setIfInBounds id (some value), waiting })

/-- The state after the items of a sequence are visited. -/
def visitAll
    (filling : Filling) :
    List NodeId → Except Fault Filling
  | [] => .ok filling
  | id :: others => do
    let (_, filling) ← filling.visit id
    filling.visitAll others

/-- The state after the pairs of a mapping are visited, whose keys are no collections. -/
def visitPairs
    (filling : Filling) :
    List (NodeId × NodeId) → Except Fault Filling
  | [] => .ok filling
  | (key, value) :: others => do
    let (keyValue, filling) ← filling.visit key
    if keyValue.isCollection then throw .malformed
    let (_, filling) ← filling.visit value
    filling.visitPairs others

/-- The state after the items of a list of single pairs are visited. -/
def visitSingles
    (filling : Filling) :
    List NodeId → Except Fault Filling
  | [] => .ok filling
  | id :: others =>
    match (filling.graph.node id).content with
    | .mapping [(key, value)] => do
      let (_, filling) ← filling.visit key
      let (_, filling) ← filling.visit value
      filling.visitSingles others
    | _ => .error .malformed

/-- The state after the contents of a collection are visited. -/
def fill
    (filling : Filling)
    (id : NodeId) :
    Except Fault Filling :=
  let content := (filling.graph.node id).content
  match filling.value? id, content with
  | some (.list _), .sequence items => filling.visitAll items
  | some (.pairs _), .sequence items => filling.visitSingles items
  | some (.record _), .mapping _ | some (.set _), .mapping _ => do
    let graph ← filling.graph.merge filling.limits filling.merges id
    { filling with graph }.visitPairs (graph.pairs id)
  | _, _ => .error .malformed

/-- The state after the contents of all collections are visited. -/
def complete : Nat → Filling → Except Fault Filling
  | 0, filling => .ok filling
  | fuel + 1, filling =>
    match filling.waiting with
    | [] => .ok filling
    | id :: waiting => do
      let filling ← { filling with waiting }.fill id
      complete fuel filling

end Filling

/-- What a form of two levels sees of a document: for each item of a list, its fields if it is
a record. -/
inductive Outline
  | empty
  | items (items : List (Option Schema.Fields))
  | other
deriving DecidableEq, Repr

namespace Value

/-- A value as a datum of a record. -/
def datum : Value → Schema.Datum
  | .null => .null
  | .truth value => .truth value
  | .integer value => .integer value
  | .real value => .real value
  | .undefinedNumber _ => .real .notANumber
  | .text value => .text value
  | .bytes value => .bytes value
  | _ => .composite

/-- A value up to the equality of numbers and truth values. -/
inductive Identity
  | number (value : Rat)
  | value (value : Value)
deriving DecidableEq

/-- What a value is equal by. -/
def identity : Value → Identity
  | .truth value => .number (if value then 1 else 0)
  | .integer value => .number value
  | .real value =>
    match value.toRat? with
    | some exact => .number exact
    | none => .value (.real value)
  | value => .value value

end Value

namespace Filling

/-- The fields of a record that have a text for their name. -/
def fields
    (filling : Filling)
    (id : NodeId) :
    Schema.Fields :=
  (filling.graph.pairs id).filterMap fun (key, value) =>
    match filling.value? key with
    | some (.text name) =>
      name.chars?.map fun chars =>
        (String.ofList chars, ((filling.value? value).map Value.datum).getD .null)
    | _ => none

/-- What a form sees of an item of a list. -/
def item
    (filling : Filling)
    (id : NodeId) :
    Option Schema.Fields :=
  match filling.value? id with
  | some (.record node) => some (filling.fields node)
  | _ => none

/-- How many different keys a mapping has. -/
def keyCount
    (filling : Filling)
    (id : NodeId) : Nat :=
  ((filling.graph.pairs id).map fun (key, _) =>
    (filling.value? key).map Value.identity).eraseDups.length

/-- What a form of two levels sees of a node. -/
def outline
    (filling : Filling)
    (id : NodeId) : Outline :=
  match filling.value? id, (filling.graph.node id).content with
  | some .null, _ => .empty
  | some (.list _), .sequence items => .items (items.map filling.item)
  | some (.pairs _), .sequence items => .items (items.map fun _ => none)
  | some (.set _), _ => .items (List.replicate (filling.keyCount id) none)
  | _, _ => .other

end Filling

/-- The outline of the document that a text holds. -/
def load
    (limits : Limits)
    (text : List Char) :
    Except Fault Outline := do
  let composed ← Composed.ofText limits text
  match composed.root with
  | none => return .empty
  | some root => do
    let (_, filling) ← (Filling.start limits composed.graph).visit root
    let filling ← filling.complete (composed.graph.size + 1)
    return filling.outline root

end Yaml
end Headroom
