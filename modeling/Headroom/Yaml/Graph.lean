import Headroom.Yaml.Event
import Headroom.Yaml.Tag

/-!
# The node graph of a document

The nodes of a document are numbered in the order in which they begin.  A
sequence lists the numbers of its items, a mapping those of its keys and values;
an alias is the number of the node that it names, so nodes may be shared and a
node may contain itself.

A text must hold one document at most; one without a document has no root.
Collections may be open in one another up to a limit.
-/

namespace Headroom
namespace Yaml

/-- The number of a node. -/
abbrev NodeId := Nat

/-- What a node consists of. -/
inductive Content
  | scalar (value : Text)
  | sequence (items : List NodeId)
  | mapping (pairs : List (NodeId × NodeId))
deriving DecidableEq, Repr

/-- A node. -/
structure Node where
  tag : Tag
  content : Content
deriving DecidableEq, Repr

/-- The nodes of a document by their numbers. -/
abbrev Graph := Array Node

/-- A collection whose end has not come yet. -/
structure OpenCollection where
  id : NodeId
  isMapping : Bool
  /-- The children so far, the last one first. -/
  children : List NodeId
deriving DecidableEq, Repr

/-- The state of composing a document. -/
structure Composition where
  graph : Graph
  anchors : List (String × NodeId)
  /-- The open collections, the innermost one first. -/
  opened : List OpenCollection
  root : Option NodeId
  /-- Whether a document has begun. -/
  begun : Bool

namespace Composition

/-- The state before the first event. -/
def start : Composition :=
  { graph := #[], anchors := [], opened := [], root := none, begun := false }

/-- The state after a child of the innermost collection is complete. -/
def addChild
    (child : NodeId)
    (composition : Composition) : Composition :=
  match composition.opened with
  | [] => { composition with root := some child }
  | innermost :: others =>
    { composition with
      opened := { innermost with children := child :: innermost.children } :: others }

/-- The state after a node begins, and the number of the node. -/
def addNode
    (anchor : Option String)
    (node : Node)
    (composition : Composition) :
    Except Fault (NodeId × Composition) :=
  let id := composition.graph.size
  let composition := { composition with graph := composition.graph.push node }
  match anchor with
  | none => .ok (id, composition)
  | some name =>
    if (composition.anchors.lookup name).isSome then .error .malformed
    else .ok (id, { composition with anchors := (name, id) :: composition.anchors })

/-- The state after a collection begins, if not too many are open. -/
def openCollection
    (limit : Nat)
    (properties : Properties)
    (default : Tag)
    (content : Content)
    (isMapping : Bool)
    (composition : Composition) :
    Except Fault Composition := do
  if limit ≤ composition.opened.length then throw .tooDeep
  let tag :=
    if properties.isUntagged then default else (properties.tag.map Tag.ofName).getD default
  let (id, composition) ← composition.addNode properties.anchor { tag, content }
  return { composition with
    opened := { id, isMapping, children := [] } :: composition.opened }

/-- The keys and values of a mapping, from the list of its children. -/
def pairs : List NodeId → List (NodeId × NodeId)
  | key :: value :: rest => (key, value) :: pairs rest
  | _ => []

/-- The state after the innermost collection ends. -/
def closeCollection (composition : Composition) : Except Fault Composition :=
  match composition.opened with
  | [] => .error .malformed
  | innermost :: others =>
    let children := innermost.children.reverse
    let content : Content :=
      if innermost.isMapping then .mapping (pairs children) else .sequence children
    let graph := composition.graph.modify innermost.id fun node => { node with content }
    .ok ({ composition with graph, opened := others }.addChild innermost.id)

/-- The state after an event. -/
def step
    (limit : Nat)
    (composition : Composition) :
    Event → Except Fault Composition
  | .documentStart =>
    if composition.begun then .error .malformed else .ok { composition with begun := true }
  | .documentEnd => .ok composition
  | .alias name =>
    match composition.anchors.lookup name with
    | none => .error .malformed
    | some id => .ok (composition.addChild id)
  | .scalar properties value resolved => do
    let tag :=
      if properties.isUntagged then
        if resolved then Tag.ofPlain value else .text
      else (properties.tag.map Tag.ofName).getD .text
    let (id, composition) ← composition.addNode properties.anchor { tag, content := .scalar value }
    return composition.addChild id
  | .sequenceStart properties =>
    composition.openCollection limit properties .sequence (.sequence []) false
  | .mappingStart properties =>
    composition.openCollection limit properties .mapping (.mapping []) true
  | .sequenceEnd => composition.closeCollection
  | .mappingEnd => composition.closeCollection

end Composition

/-- A graph with the root of its document, if there is a document. -/
structure Composed where
  graph : Graph
  root : Option NodeId

/-- The node graph of a text. -/
def Composed.ofText
    (limits : Limits)
    (text : List Char) :
    Except Fault Composed := do
  let stream := EventStream.ofText text
  let composition ← stream.events.foldlM (Composition.step limits.collections) .start
  match stream.fault with
  | some fault => throw fault
  | none => return { graph := composition.graph, root := composition.root }

end Yaml
end Headroom
