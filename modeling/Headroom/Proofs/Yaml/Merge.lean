import Headroom.Proofs.Yaml.Attempt
import Headroom.Yaml.Merge

/-!
# What merging leaves as it is

Merging gives mappings other pairs and makes text of some keys.  It gives no scalar another
text, makes no mapping of anything else, and changes no tag but the mark of a default
value; and it fails on nothing but what it may not merge, or merges too deep.
-/

namespace Headroom
namespace Yaml

/-- What a node keeps while mappings are merged. -/
structure Node.BecomesBy (old new : Node) : Prop where
  content :
    new.content = old.content ∨
      ∃ oldPairs newPairs, old.content = .mapping oldPairs ∧ new.content = .mapping newPairs
  tag : new.tag = old.tag ∨ (old.tag = .value ∧ new.tag = .text)

namespace Graph

/-- Each node of a graph is what a node of another has become. -/
def Becomes (old new : Graph) : Prop :=
  ∀ id, (old.node id).BecomesBy (new.node id)

variable {old middle new graph : Graph}

theorem Becomes.refl (graph : Graph) : graph.Becomes graph :=
  fun _ => ⟨.inl rfl, .inl rfl⟩

theorem Becomes.trans
    (first : old.Becomes middle)
    (second : middle.Becomes new) :
    old.Becomes new := by
  intro id
  constructor
  · obtain same | ⟨oldPairs, middlePairs, old_eq, middle_eq⟩ := (first id).content
    · rw [← same]
      exact (second id).content
    · refine .inr ⟨oldPairs, ?_⟩
      obtain same | ⟨_, newPairs, _, new_eq⟩ := (second id).content
      · exact ⟨middlePairs, old_eq, same.trans middle_eq⟩
      · exact ⟨newPairs, old_eq, new_eq⟩
  · obtain same | ⟨old_eq, middle_eq⟩ := (first id).tag
    · rw [← same]
      exact (second id).tag
    · obtain same | ⟨middle_eq', _⟩ := (second id).tag
      · exact .inr ⟨old_eq, same.trans middle_eq⟩
      · cases middle_eq.symm.trans middle_eq'

theorem isMapping_iff {id : NodeId} :
    graph.isMapping id = true ↔ ∃ pairs, (graph.node id).content = .mapping pairs := by
  unfold isMapping
  split <;> simp_all

theorem Becomes.isMapping
    (becomes : old.Becomes new)
    {id : NodeId} :
    new.isMapping id = old.isMapping id := by
  rw [Bool.eq_iff_iff, isMapping_iff, isMapping_iff]
  obtain same | ⟨oldPairs, newPairs, old_eq, new_eq⟩ := (becomes id).content
  · rw [same]
  · simp [old_eq, new_eq]

theorem isMapping_of_mem_pairs
    {id : NodeId}
    {pair : NodeId × NodeId}
    (listed : pair ∈ graph.pairs id) :
    graph.isMapping id = true := by
  unfold pairs at listed
  unfold Graph.isMapping
  split at listed
  · rfl
  · cases listed

/-- A change of one node that the node may undergo. -/
theorem becomes_modify
    {id : NodeId}
    {change : Node → Node}
    (becomes : (graph.node id).BecomesBy (change (graph.node id))) :
    graph.Becomes (graph.modify id change) := by
  intro other
  unfold Graph.node at *
  rw [Array.getElem?_modify]
  split
  · rename_i same
    subst same
    cases found : graph[id]? with
    | none => exact ⟨.inl rfl, .inl rfl⟩
    | some node =>
        rw [found] at becomes
        exact becomes
  · exact ⟨.inl rfl, .inl rfl⟩

theorem becomes_setPairs
    {id : NodeId}
    (mapping : graph.isMapping id = true)
    (pairs : List (NodeId × NodeId)) :
    graph.Becomes (graph.setPairs id pairs) := by
  obtain ⟨oldPairs, old_eq⟩ := isMapping_iff.mp mapping
  exact becomes_modify ⟨.inr ⟨oldPairs, pairs, old_eq, rfl⟩, .inl rfl⟩

theorem becomes_settleKey
    (graph : Graph)
    (key : NodeId) :
    graph.Becomes (graph.settleKey key) := by
  unfold settleKey
  split
  · rename_i tagged
    exact becomes_modify ⟨.inl rfl, .inr ⟨tagged, rfl⟩⟩
  · exact .refl graph

theorem becomes_settleKeys
    (graph : Graph)
    (pairs : List (NodeId × NodeId)) :
    graph.Becomes (pairs.foldl (fun graph (key, _) => graph.settleKey key) graph) := by
  induction pairs generalizing graph with
  | nil => exact .refl graph
  | cons pair others inductionHypothesis =>
      exact (becomes_settleKey graph pair.1).trans (inductionHypothesis _)

/-- What keeps the mappings of a graph from being merged: something that may not be, or merge marks
that lead too deep. -/
def ResistsMerging
    (graph : Graph)
    (fault : Fault) : Prop :=
  fault = .malformed ∨ (fault = .tooDeep ∧ ∃ key, (graph.node key).tag = .merge)

theorem ResistsMerging.malformed : graph.ResistsMerging .malformed :=
  .inl rfl

/-- Merge marks are as old as the graph. -/
theorem Becomes.resistsMerging
    (becomes : old.Becomes new)
    {fault : Fault}
    (resists : new.ResistsMerging fault) :
    old.ResistsMerging fault := by
  obtain malformed | ⟨tooDeep, key, marked⟩ := resists
  · exact .inl malformed
  · refine .inr ⟨tooDeep, key, ?_⟩
    obtain same | ⟨-, text⟩ := (becomes key).tag
    · rw [← same, marked]
    · cases marked.symm.trans text

/-- Behind the pairs that are passed over stands one with a merge mark. -/
theorem isMarked_of_drop_takeWhile
    {following others : List (NodeId × NodeId)}
    {key source : NodeId}
    (stopped :
      following.drop
          (following.takeWhile fun (key, _) => (graph.node key).tag != .merge).length =
        (key, source) :: others) :
    (graph.node key).tag = .merge := by
  induction following with
  | nil => cases stopped
  | cons pair rest inductionHypothesis =>
      rw [List.takeWhile_cons] at stopped
      by_cases marked : (graph.node pair.1).tag = .merge
      · rw [if_neg (by simp [marked])] at stopped
        cases stopped
        exact marked
      · rw [if_pos (by simpa using marked)] at stopped
        exact inductionHypothesis stopped

/-- Mappings are merged by changes that their nodes may undergo. -/
theorem mergeFrom_meets
    {id : NodeId}
    {merged : List (NodeId × NodeId)}
    (taken : merged ≠ [] → graph.isMapping id = true)
    (fuel limit place : Nat) :
    Meets graph.Becomes graph.ResistsMerging (mergeFrom fuel limit graph id place merged) := by
  induction fuel generalizing graph id limit place merged with
  | zero => exact .malformed
  | succ fuel inductionHypothesis =>
      have settled := becomes_settleKeys graph (((graph.pairs id).drop place).takeWhile
        fun (key, _) => (graph.node key).tag != .merge)
      unfold mergeFrom
      dsimp only
      split
      · split
        · exact settled
        · rename_i nonempty
          have mapping : graph.isMapping id = true := taken (by simpa using nonempty)
          rw [← settled.isMapping] at mapping
          exact settled.trans (becomes_setPairs mapping _)
      · rename_i key source others following_eq
        have listed : (key, source) ∈ (key, source) :: others := List.mem_cons_self
        rw [← following_eq] at listed
        have mapping : graph.isMapping id = true :=
          isMapping_of_mem_pairs (List.mem_of_mem_drop (List.mem_of_mem_drop listed))
        have tooDeep : graph.ResistsMerging .tooDeep :=
          .inr ⟨rfl, key, isMarked_of_drop_takeWhile following_eq⟩
        have unmarked (pairs : List (NodeId × NodeId)) :=
          settled.trans (becomes_setPairs (settled.isMapping.trans mapping) pairs)
        -- A mapping that is taken over is merged itself, one level deeper.
        have taking {later : Graph}
            (becomes : graph.Becomes later)
            (source : NodeId) :
            Meets graph.Becomes graph.ResistsMerging
              (mergeFrom fuel (limit - 1) later source 0 []) :=
          (inductionHypothesis (fun nonempty => (nonempty rfl).elim) (limit - 1) 0).mono
            (fun _ last => becomes.trans last) fun _ => becomes.resistsMerging
        -- The rest of the mapping is merged once the mappings that are taken over are.
        have onward {later : Graph} {merged : List (NodeId × NodeId)}
            (becomes : graph.Becomes later)
            (place : Nat) :
            Meets graph.Becomes graph.ResistsMerging
              (mergeFrom fuel limit later id place merged) :=
          (inductionHypothesis (fun _ => becomes.isMapping.trans mapping) limit place).mono
            (fun _ last => becomes.trans last) fun _ => becomes.resistsMerging
        split
        · exact .malformed
        · refine .ite tooDeep ?_
          exact (taking (unmarked _) source).bind fun later becomes => onward becomes _
        · rename_i sources _
          refine Meets.bind (meets_foldlM (fun found => graph.Becomes found.1) ?_
            (unmarked _) sources) fun found becomes => onward becomes _
          rintro ⟨later, found⟩ source becomes
          dsimp only
          refine .ite .malformed (.ite tooDeep ?_)
          exact (taking becomes source).bind fun last becomes => becomes

end Graph
end Yaml
end Headroom
