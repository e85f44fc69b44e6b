import Headroom.Yaml.Value

/-!
# Merged mappings

A mapping may take over the pairs of others: a key that is the merge mark names
a mapping, or several, whose pairs come before its own.  Those mappings are
merged themselves first, one inside the other up to a limit.

Along the way a key that is the mark of a default value becomes text.
-/

namespace Headroom
namespace Yaml
namespace Graph

/-- The pairs of a mapping. -/
def pairs
    (graph : Graph)
    (id : NodeId) :
    List (NodeId × NodeId) :=
  match (graph.node id).content with
  | .mapping pairs => pairs
  | _ => []

/-- Whether a node is a mapping. -/
def isMapping
    (graph : Graph)
    (id : NodeId) : Bool :=
  match (graph.node id).content with
  | .mapping _ => true
  | _ => false

/-- The graph after a mapping is given other pairs. -/
def setPairs
    (graph : Graph)
    (id : NodeId)
    (pairs : List (NodeId × NodeId)) : Graph :=
  graph.modify id fun node => { node with content := .mapping pairs }

/-- The graph after a key that is the mark of a default value becomes text. -/
def settleKey
    (graph : Graph)
    (key : NodeId) : Graph :=
  if (graph.node key).tag = .value then
    graph.modify key fun node => { node with tag := .text }
  else graph

/-- The graph after the mappings named from a place on in a mapping are merged into it. -/
def mergeFrom :
    Nat → Nat → Graph → NodeId → Nat → List (NodeId × NodeId) → Except Fault Graph
  | 0, _, _, _, _, _ => .error .malformed
  | fuel + 1, limit, graph, id, place, merged => do
    let following := (graph.pairs id).drop place
    let skipped := following.takeWhile fun (key, _) => (graph.node key).tag != .merge
    let graph := skipped.foldl (fun graph (key, _) => graph.settleKey key) graph
    match following.drop skipped.length with
    | [] =>
      if merged.isEmpty then return graph
      return graph.setPairs id (merged ++ graph.pairs id)
    | (_, source) :: _ =>
      let place := place + skipped.length
      let graph := graph.setPairs id ((graph.pairs id).eraseIdx place)
      match (graph.node source).content with
      | .scalar _ => throw .malformed
      | .mapping _ =>
        if limit = 0 then throw .tooDeep
        let graph ← mergeFrom fuel (limit - 1) graph source 0 []
        mergeFrom fuel limit graph id place (merged ++ graph.pairs source)
      | .sequence sources =>
        let (graph, found) ← sources.foldlM
          (fun (graph, found) source => do
            if !graph.isMapping source then throw .malformed
            if limit = 0 then throw .tooDeep
            let graph ← mergeFrom fuel (limit - 1) graph source 0 []
            return (graph, graph.pairs source ++ found))
          (graph, [])
        mergeFrom fuel limit graph id place (merged ++ found)

/-- How many pairs the mappings of a graph have. -/
def pairCount (graph : Graph) : Nat :=
  graph.foldl
    (fun count node =>
      match node.content with
      | .mapping pairs => count + pairs.length
      | _ => count)
    0

/-- The graph after the mappings named in a mapping are merged into it. -/
def merge
    (graph : Graph)
    (limits : Limits)
    (fuel : Nat)
    (id : NodeId) :
    Except Fault Graph :=
  mergeFrom (fuel + 1) limits.merges graph id 0 []

end Graph
end Yaml
end Headroom
