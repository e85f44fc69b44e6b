import Headroom.Proofs.Yaml.TokenStream
import Headroom.Yaml.Event

/-!
# Faults of event streams

Events are read off the tokens alone: whoever cannot read the next one has met tokens that
are out of place, or stands where the tokens end and takes over the fault that ended them.
-/

namespace Headroom
namespace Yaml

/-- What keeps events from being read off tokens that a fault may have ended. -/
def Stops
    (ending : Option Fault)
    (fault : Fault) : Prop :=
  fault = .malformed ∨ ending = some fault

theorem Stops.malformed {ending : Option Fault} : Stops ending .malformed :=
  .inl rfl

namespace Reading

theorem resume_fault (reading : Reading) : reading.resume.fault = reading.fault := by
  unfold resume
  split <;> rfl

variable {reading : Reading} {ending : Option Fault}

/-- Reading goes on with the fault that ended the tokens, or stops because of it. -/
abbrev GoesOn
    {α : Type}
    (ending : Option Fault)
    (attempt : Except Fault (α × Reading)) : Prop :=
  Meets (fun found => found.2.fault = ending) (Stops ending) attempt

theorem peek_failsOnly (held : reading.fault = ending) :
    FailsOnly (Stops ending) reading.peek := by
  unfold peek
  split
  · rw [held]
    cases ending with
    | none => exact .malformed
    | some fault => exact .inr rfl
  · trivial

theorem fullTag_failsOnly
    (reading : Reading)
    (handle : Option String)
    (suffix : String) :
    FailsOnly (Stops ending) (reading.fullTag handle suffix) := by
  unfold fullTag
  split
  · trivial
  split
  · exact .malformed
  · trivial

theorem properties_goesOn (held : reading.fault = ending) :
    GoesOn ending reading.properties := by
  have tagged {anchor handle : Option String} {suffix : String} {reading : Reading}
      (held : reading.fault = ending) :
      GoesOn ending (do
        let tag ← reading.fullTag handle suffix
        return (({ anchor, tag := some tag } : Properties), reading)) :=
    (fullTag_failsOnly _ _ _).bind fun _ _ => held
  have passed : reading.drop.fault = ending := held
  unfold properties
  refine (peek_failsOnly held).bind fun token _ => ?_
  split
  · dsimp only
    refine (peek_failsOnly passed).bind fun following _ => ?_
    split
    · exact tagged held
    · exact held
  · dsimp only
    refine (peek_failsOnly passed).bind fun following _ => ?_
    split
    · exact tagged held
    · exact tagged held
  · exact held

theorem node_goesOn
    {place : Place}
    (held : reading.fault = ending) :
    GoesOn ending (reading.node place) := by
  unfold node
  refine (peek_failsOnly held).bind fun token _ => ?_
  dsimp only
  split
  · exact (resume_fault _).trans held
  · refine (properties_goesOn held).bind fun found heldThen => ?_
    have resumed : found.2.resume.fault = ending := (resume_fault _).trans heldThen
    have passed : found.2.drop.resume.fault = ending := (resume_fault _).trans heldThen
    have omitted (event : Event) :
        GoesOn ending (if (found.1.anchor.isNone && found.1.tag.isNone) = true
          then throw .malformed else pure (event, found.2.resume)) :=
      .ite .malformed resumed
    refine (peek_failsOnly heldThen).bind fun following _ => ?_
    split
    · exact .ite heldThen (omitted _)
    · exact passed
    · exact heldThen
    · exact heldThen
    · exact .ite heldThen (omitted _)
    · exact .ite heldThen (omitted _)
    · exact omitted _

theorem nodeOrEmpty_goesOn
    {place : Place}
    {after : Expectation}
    {closers : List Token}
    (held : reading.fault = ending) :
    GoesOn ending (reading.nodeOrEmpty place after closers) :=
  (peek_failsOnly held).bind fun _ _ => .ite held (node_goesOn held)

theorem valueOrEmpty_goesOn
    {place : Place}
    {after : Expectation}
    {closers : List Token}
    (held : reading.fault = ending) :
    GoesOn ending (reading.valueOrEmpty place after closers) := by
  refine (peek_failsOnly held).bind fun token _ => ?_
  split
  · exact nodeOrEmpty_goesOn held
  · exact held

theorem directives_failsOnly
    (versioned : Bool)
    (handles : List (String × String))
    (tokens : List Token) :
    FailsOnly (Stops ending) (directives versioned handles tokens) := by
  fun_induction directives versioned handles tokens with
  | case1 => exact .malformed
  | case2 _ _ _ _ _ _ inductionHypothesis => exact inductionHypothesis
  | case3 => exact .malformed
  | case4 _ _ _ _ _ _ inductionHypothesis => exact inductionHypothesis
  | case5 _ _ _ inductionHypothesis => exact inductionHypothesis
  | case6 => trivial

theorem document_goesOn (held : reading.fault = ending) :
    GoesOn ending reading.document := by
  have past (tokens : List Token) (handles : List (String × String)) :
      ({ reading with tokens, handles } : Reading).fault = ending := held
  unfold document
  dsimp only
  refine (peek_failsOnly (past _ _)).bind fun token _ => ?_
  refine .ite held ((directives_failsOnly _ _ _).bind fun found _ => ?_)
  exact (peek_failsOnly (past _ _)).bind fun _ _ => .ite held .malformed

theorem flowEntry_goesOn (held : reading.fault = ending) :
    GoesOn ending reading.flowEntry := by
  refine (peek_failsOnly held).bind fun token _ => ?_
  split
  · exact held
  · exact (resume_fault _).trans held
  · exact node_goesOn held

theorem flowKey_goesOn (held : reading.fault = ending) :
    GoesOn ending reading.flowKey := by
  refine (peek_failsOnly held).bind fun token _ => ?_
  split
  · exact nodeOrEmpty_goesOn held
  · exact (resume_fault _).trans held
  · exact node_goesOn held

/-- The next event is read, or tokens are out of place or at their end. -/
theorem step_goesOn (held : reading.fault = ending) :
    GoesOn ending reading.step := by
  have emit {found : Except Fault (Event × Reading)} (goesOn : GoesOn ending found) :
      GoesOn ending (found.map fun next => (some next.1, next.2)) :=
    meets_map.mpr goesOn
  have resumed : reading.resume.fault = ending := (resume_fault _).trans held
  have passed : reading.drop.resume.fault = ending := (resume_fault _).trans held
  unfold step
  dsimp only
  cases reading.expected with
  | firstDocument =>
      refine (peek_failsOnly held).bind fun token _ => ?_
      split
      · exact document_goesOn held
      · exact document_goesOn held
      · exact document_goesOn held
      · exact held
  | document => exact document_goesOn held
  | documentContent =>
      exact (peek_failsOnly held).bind fun _ _ => .ite resumed (emit (node_goesOn held))
  | documentEnd => exact (peek_failsOnly held).bind fun _ _ => .ite held held
  | blockNode => exact emit (node_goesOn held)
  | blockSequenceEntry =>
      refine (peek_failsOnly held).bind fun token _ => ?_
      split
      · exact emit (nodeOrEmpty_goesOn held)
      · exact passed
      · exact .malformed
  | indentlessEntry =>
      refine (peek_failsOnly held).bind fun token _ => ?_
      split
      · exact emit (nodeOrEmpty_goesOn held)
      · exact resumed
  | blockKey =>
      refine (peek_failsOnly held).bind fun token _ => ?_
      split
      · exact emit (nodeOrEmpty_goesOn held)
      · exact passed
      · exact .malformed
  | blockValue => exact emit (valueOrEmpty_goesOn held)
  | flowSequenceFirst => exact emit (flowEntry_goesOn held)
  | flowSequenceEntry =>
      refine (peek_failsOnly held).bind fun token _ => ?_
      split
      · exact passed
      · exact emit (flowEntry_goesOn held)
      · exact .malformed
  | pairKey => exact emit (nodeOrEmpty_goesOn held)
  | pairValue => exact emit (valueOrEmpty_goesOn held)
  | pairEnd => exact held
  | flowMappingFirst => exact emit (flowKey_goesOn held)
  | flowKey =>
      refine (peek_failsOnly held).bind fun token _ => ?_
      split
      · exact passed
      · exact emit (flowKey_goesOn held)
      · exact .malformed
  | flowValue => exact emit (valueOrEmpty_goesOn held)
  | flowEmptyValue => exact held
  | nothing => exact held

end Reading

namespace EventStream

theorem after_fault_stops
    {reading : Reading}
    {ending : Option Fault}
    {fault : Fault}
    (held : reading.fault = ending)
    (fuel : Nat)
    (ended : (after fuel reading).fault = some fault) :
    Stops ending fault := by
  induction fuel generalizing reading with
  | zero =>
      cases ended
      exact .malformed
  | succ fuel inductionHypothesis =>
      have onward := Reading.step_goesOn held
      unfold after at ended
      split at ended
      · rename_i met failed
        cases ended
        exact onward.of_error failed
      · cases ended
      · rename_i event next succeeded
        exact inductionHypothesis (onward.of_ok succeeded) ended

/-- Only an obstacle in a text ends its events early. -/
theorem ofText_fault_obstacle
    {text : List Char}
    {fault : Fault}
    (ended : (ofText text).fault = some fault) :
    Obstacle text fault := by
  obtain rfl | inherited := after_fault_stops rfl _ ended
  · exact .malformed
  · exact TokenStream.ofText_fault_obstacle inherited

end EventStream
end Yaml
end Headroom
