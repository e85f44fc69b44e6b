import Headroom.Proofs.Yaml.Event
import Headroom.Yaml.Graph

/-!
# Faults of composing a graph

The collections that are open while a graph is composed can be counted from the events
alone.  So a graph that cannot be composed comes of a text that is malformed, or has an
obstacle to its tokens, or opens a collection while too many others are open.
-/

namespace Headroom
namespace Yaml

/-- How many collections are open after an event. -/
def Event.nesting
    (depth : Nat) :
    Event → Nat
  | .sequenceStart _ | .mappingStart _ => depth + 1
  | .sequenceEnd | .mappingEnd => depth - 1
  | _ => depth

/-- How many collections are open after events. -/
def nestingAfter (events : List Event) : Nat :=
  events.foldl Event.nesting 0

theorem nestingAfter_append_singleton (events : List Event) (event : Event) :
    nestingAfter (events ++ [event]) = event.nesting (nestingAfter events) := by
  simp [nestingAfter]

/-- Whether an event opens a collection. -/
def Event.opensCollection : Event → Bool
  | .sequenceStart _ | .mappingStart _ => true
  | _ => false

/-- Events open a collection while as many are open as may be. -/
def NestsTooDeep
    (limit : Nat)
    (events : List Event) : Prop :=
  ∃ before event after,
    events = before ++ event :: after ∧ event.opensCollection = true ∧
      limit ≤ nestingAfter before

namespace Composition

variable {limit : Nat} {composition : Composition}

/-- What keeps a step of composing from being taken at a depth. -/
def Hinders
    (limit depth : Nat)
    (event : Event)
    (fault : Fault) : Prop :=
  fault = .malformed ∨
    (fault = .tooDeep ∧ event.opensCollection = true ∧ limit ≤ depth)

theorem addChild_opened_length (child : NodeId) (composition : Composition) :
    (composition.addChild child).opened.length = composition.opened.length := by
  unfold addChild
  split
  · rfl
  · rename_i innermost others opened_eq
    simp [opened_eq]

theorem addNode_meets
    (anchor : Option String)
    (node : Node)
    (composition : Composition) :
    Meets (fun found => found.2.opened = composition.opened) (· = .malformed)
      (composition.addNode anchor node) := by
  unfold addNode
  dsimp only
  split
  · rfl
  · exact .ite rfl rfl

theorem openCollection_meets
    {event : Event}
    (opens : event.opensCollection = true)
    (properties : Properties)
    (default : Tag)
    (content : Content)
    (isMapping : Bool)
    (composition : Composition) :
    Meets (fun next => next.opened.length = composition.opened.length + 1)
      (Hinders limit composition.opened.length event)
      (composition.openCollection limit properties default content isMapping) := by
  unfold openCollection
  by_cases deep : limit ≤ composition.opened.length
  · rw [if_pos deep]
    exact Or.inr ⟨rfl, opens, deep⟩
  · rw [if_neg deep]
    refine meets_bind.mpr ((addNode_meets _ _ _).mono (fun found kept => ?_) fun _ => Or.inl)
    simp [kept]

theorem closeCollection_meets (composition : Composition) :
    Meets (fun next => next.opened.length = composition.opened.length - 1) (· = .malformed)
      composition.closeCollection := by
  unfold closeCollection
  split
  · rfl
  · rename_i innermost others opened_eq
    rw [meets_ok, addChild_opened_length, opened_eq]
    rfl

/-- A step keeps the count of the open collections. -/
theorem step_meets
    (limit : Nat)
    (composition : Composition)
    (event : Event) :
    Meets (fun next => next.opened.length = event.nesting composition.opened.length)
      (Hinders limit composition.opened.length event) (composition.step limit event) := by
  cases event with
  | documentStart => exact .ite (.inl rfl) rfl
  | documentEnd => rfl
  | «alias» name =>
      unfold step
      dsimp only
      split
      · exact .inl rfl
      · exact addChild_opened_length _ _
  | scalar properties value resolved =>
      refine meets_bind.mpr ((addNode_meets _ _ _).mono (fun found kept => ?_) fun _ => .inl)
      rw [meets_pure, addChild_opened_length, kept]
      rfl
  | sequenceStart properties => exact openCollection_meets rfl _ _ _ _ _
  | mappingStart properties => exact openCollection_meets rfl _ _ _ _ _
  | sequenceEnd => exact (closeCollection_meets _).mono (fun _ => id) fun _ => .inl
  | mappingEnd => exact (closeCollection_meets _).mono (fun _ => id) fun _ => .inl

/-- Composing fails on a text that is malformed, or where its collections stand too deep. -/
theorem foldlM_step_meets
    {before : List Event}
    (counted : composition.opened.length = nestingAfter before)
    (events : List Event) :
    FailsOnly (fun fault =>
        fault = .malformed ∨ (fault = .tooDeep ∧ NestsTooDeep limit (before ++ events)))
      (events.foldlM (step limit) composition) := by
  induction events generalizing composition before with
  | nil => trivial
  | cons event others inductionHypothesis =>
      rw [List.foldlM_cons]
      refine meets_bind.mpr ((step_meets limit composition event).mono (fun next nested => ?_) ?_)
      · have onward : next.opened.length = nestingAfter (before ++ [event]) := by
          rw [nested, counted, nestingAfter_append_singleton]
        simpa using inductionHypothesis onward
      · rintro fault (malformed | ⟨tooDeep, opens, deep⟩)
        · exact .inl malformed
        · exact .inr ⟨tooDeep, before, event, others, rfl, opens, counted ▸ deep⟩

end Composition

/-- What keeps a text from being composed. -/
theorem Composed.ofText_failsOnly
    (limits : Limits)
    (text : List Char) :
    FailsOnly (fun fault => Obstacle text fault ∨
        (fault = .tooDeep ∧ NestsTooDeep limits.collections (EventStream.ofText text).events))
      (Composed.ofText limits text) := by
  unfold Composed.ofText
  have begun : Composition.start.opened.length = nestingAfter [] := rfl
  refine meets_bind.mpr ((Composition.foldlM_step_meets begun _).mono (fun composition _ => ?_) ?_)
  · split
    · rename_i fault ended
      exact .inl (EventStream.ofText_fault_obstacle ended)
    · trivial
  · rintro fault (rfl | deep)
    · exact .inl .malformed
    · exact .inr deep

end Yaml
end Headroom
