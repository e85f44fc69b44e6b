import Headroom.Proofs.Yaml.Graph
import Headroom.Proofs.Yaml.Value
import Headroom.Yaml.Document

/-!
# Faults of documents

A text that cannot be loaded is malformed, or something can be pointed out in it: an escape
or a version number that cannot be read, a collection that stands too deep in others, a node
that denotes nothing, or a default value or a merge mark that leads too deep.
-/

namespace Headroom
namespace Yaml

/-- Something in a text cannot be read, although it may be well formed. -/
inductive HasUnreadable
    (limits : Limits)
    (text : List Char) : Fault → Prop
  /-- The tokens of the text meet an obstacle. -/
  | token
      {fault : Fault}
      (obstacle : Obstacle text fault)
      (wellFormed : fault ≠ .malformed) :
      HasUnreadable limits text fault
  /-- The collections of the text stand too deep in one another. -/
  | nesting
      (deep : NestsTooDeep limits.collections (EventStream.ofText text).events) :
      HasUnreadable limits text .tooDeep
  /-- The graph of the text has a node that denotes nothing or leads too deep. -/
  | node
      {composed : Composed}
      {fault : Fault}
      (composes : Composed.ofText limits text = .ok composed)
      (undefined : composed.graph.HasUndefined fault)
      (wellFormed : fault ≠ .malformed) :
      HasUnreadable limits text fault

/-- What cannot be read is no want of form. -/
theorem HasUnreadable.wellFormed
    {limits : Limits}
    {text : List Char}
    {fault : Fault}
    (unreadable : HasUnreadable limits text fault) :
    fault ≠ .malformed := by
  cases unreadable with
  | token _ wellFormed => exact wellFormed
  | nesting _ => nofun
  | node _ _ wellFormed => exact wellFormed

namespace Filling

variable {original : Graph} {filling : Filling}

/-- Values are found in a graph that has come of another, unless that resists. -/
abbrev FillsOn
    (original : Graph)
    (attempt : Except Fault Filling) : Prop :=
  Meets (fun next => original.Becomes next.graph) original.Resists attempt

theorem visit_meets
    (becomes : original.Becomes filling.graph)
    (id : NodeId) :
    Meets (fun found => original.Becomes found.2.graph) original.Resists (filling.visit id) := by
  unfold visit
  split
  · exact becomes
  · exact (Graph.value_failsOnly becomes filling.limits id).bind fun _ _ => becomes

theorem visitAll_fillsOn
    (becomes : original.Becomes filling.graph)
    (items : List NodeId) :
    FillsOn original (filling.visitAll items) := by
  induction items generalizing filling with
  | nil => exact becomes
  | cons item others inductionHypothesis =>
      exact (visit_meets becomes item).bind fun _ later => inductionHypothesis later

theorem visitPairs_fillsOn
    (becomes : original.Becomes filling.graph)
    (pairs : List (NodeId × NodeId)) :
    FillsOn original (filling.visitPairs pairs) := by
  induction pairs generalizing filling with
  | nil => exact becomes
  | cons pair others inductionHypothesis =>
      refine (visit_meets becomes pair.1).bind fun key keyed => .ite .malformed ?_
      exact (visit_meets keyed pair.2).bind fun _ later => inductionHypothesis later

theorem visitSingles_fillsOn
    (becomes : original.Becomes filling.graph)
    (items : List NodeId) :
    FillsOn original (filling.visitSingles items) := by
  induction items generalizing filling with
  | nil => exact becomes
  | cons item others inductionHypothesis =>
      unfold visitSingles
      split
      · rename_i key value content_eq
        refine (visit_meets becomes key).bind fun _ keyed => ?_
        exact (visit_meets keyed value).bind fun _ later => inductionHypothesis later
      · exact .malformed

theorem fill_fillsOn
    (becomes : original.Becomes filling.graph)
    (id : NodeId) :
    FillsOn original (filling.fill id) := by
  have merged : FillsOn original (do
      let graph ← filling.graph.merge filling.limits filling.merges id
      ({ filling with graph } : Filling).visitPairs (graph.pairs id)) := by
    have merging : Meets filling.graph.Becomes filling.graph.ResistsMerging
        (filling.graph.merge filling.limits filling.merges id) :=
      Graph.mergeFrom_meets (fun nonempty => (nonempty rfl).elim) _ _ _
    refine meets_bind.mpr (merging.mono (fun graph later => ?_) fun fault resists => ?_)
    · exact visitPairs_fillsOn (becomes.trans later) _
    · exact (becomes.resistsMerging resists).resists
  unfold fill
  dsimp only
  split
  · exact visitAll_fillsOn becomes _
  · exact visitSingles_fillsOn becomes _
  · exact merged
  · exact merged
  · exact .malformed

theorem complete_fillsOn
    (becomes : original.Becomes filling.graph)
    (fuel : Nat) :
    FillsOn original (filling.complete fuel) := by
  induction fuel generalizing filling with
  | zero => exact becomes
  | succ fuel inductionHypothesis =>
      unfold complete
      split
      · exact becomes
      · rename_i id waiting _
        have removed : original.Becomes ({ filling with waiting } : Filling).graph := becomes
        exact (fill_fillsOn removed id).bind fun _ later => inductionHypothesis later

end Filling

/-- A text that cannot be loaded is malformed or has something that cannot be read. -/
theorem load_failsOnly
    (limits : Limits)
    (text : List Char) :
    FailsOnly (fun fault => fault = .malformed ∨ HasUnreadable limits text fault)
      (load limits text) := by
  unfold load
  cases composed_eq : Composed.ofText limits text with
  | error fault =>
      obtain obstacle | ⟨rfl, deep⟩ := (Composed.ofText_failsOnly limits text).of_error composed_eq
      · by_cases malformed : fault = .malformed
        · exact Or.inl malformed
        · exact Or.inr (.token obstacle malformed)
      · exact Or.inr (.nesting deep)
  | ok composed =>
      have resisting (fault : Fault) (resists : composed.graph.Resists fault) :
          fault = .malformed ∨ HasUnreadable limits text fault := by
        obtain malformed | undefined := resists
        · exact .inl malformed
        · by_cases malformed : fault = .malformed
          · exact .inl malformed
          · exact .inr (.node composed_eq undefined malformed)
      have begun : composed.graph.Becomes (Filling.start limits composed.graph).graph := .refl _
      refine meets_bind.mpr (meets_ok.mpr ?_)
      cases composed.root with
      | none => trivial
      | some root =>
          refine Meets.mono ?_ (fun _ => id) resisting
          exact (Filling.visit_meets begun root).bind fun found becomes =>
            (Filling.complete_fillsOn becomes _).bind fun _ _ => trivial

end Yaml
end Headroom
