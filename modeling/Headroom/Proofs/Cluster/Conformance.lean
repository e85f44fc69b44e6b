import Headroom.Cluster.World

/-!
# Descriptions of runs

A description says which exchanges a run may make and how it may end after them.
An action conforms to a description in a world if its run there adds exactly such
exchanges to the history and ends that way.

The rules below follow the way in which actions are put together, so that a
description of an action is derived from descriptions of its steps.  Whatever an
action does, the script, the cancellation and the source of suffixes stay as they
are, and suffixes that were drawn stay drawn.
-/

namespace Headroom

/-- Ends of runs can be compared. -/
instance decidableEqExcept
    {ε α : Type}
    [DecidableEq ε]
    [DecidableEq α] :
    DecidableEq (Except ε α)
  | .error first, .error second => decidable_of_iff (first = second) (by simp)
  | .ok first, .ok second => decidable_of_iff (first = second) (by simp)
  | .error _, .ok _ => isFalse (by simp)
  | .ok _, .error _ => isFalse (by simp)

namespace Cluster

/-- A world comes after another one, with some exchanges between them, in which the script has
answered each call. -/
structure Follows
    (before : World)
    (trace : List Exchange)
    (after : World) : Prop where
  history_eq : after.history = before.history ++ trace
  answered :
    ∀ exchange ∈ trace, ∃ earlier,
      exchange.outcome = (before.script.respond earlier exchange.call).outcome
  script_eq : after.script = before.script
  cancellation_eq : after.cancellation = before.cancellation
  suffixes_eq : after.suffixes = before.suffixes
  drawn_le : before.drawn ≤ after.drawn

namespace Follows

theorem refl (world : World) : Follows world [] world :=
  { history_eq := by simp
    answered := nofun
    script_eq := rfl
    cancellation_eq := rfl
    suffixes_eq := rfl
    drawn_le := Nat.le_refl _ }

theorem trans
    {before middle after : World}
    {trace more : List Exchange}
    (first : Follows before trace middle)
    (second : Follows middle more after) :
    Follows before (trace ++ more) after :=
  { history_eq := by rw [second.history_eq, first.history_eq, List.append_assoc]
    answered := by
      intro exchange present
      rcases List.mem_append.mp present with earlier | later
      · exact first.answered exchange earlier
      · rw [← first.script_eq]
        exact second.answered exchange later
    script_eq := second.script_eq.trans first.script_eq
    cancellation_eq := second.cancellation_eq.trans first.cancellation_eq
    suffixes_eq := second.suffixes_eq.trans first.suffixes_eq
    drawn_le := Nat.le_trans first.drawn_le second.drawn_le }

/-- A call adds one exchange. -/
theorem afterCall (world : World) (call : Call) :
    Follows world [⟨call, (world.respond call).outcome⟩] (world.afterCall call) :=
  { history_eq := rfl
    answered := by
      intro exchange present
      rw [List.mem_singleton.mp present]
      exact ⟨world.calls, rfl⟩
    script_eq := rfl
    cancellation_eq := rfl
    suffixes_eq := rfl
    drawn_le := Nat.le_refl _ }

/-- Time that passes adds no exchange. -/
theorem withClock (world : World) (clock : Rat) :
    Follows world [] { world with clock } :=
  { refl world with }

/-- The histories of worlds that come one after the other extend each other. -/
theorem history_prefix
    {before after : World}
    {trace : List Exchange}
    (follows : Follows before trace after) :
    before.history <+: after.history :=
  ⟨trace, follows.history_eq.symm⟩

end Follows

/-- Which exchanges a run may make, and how it may end after them. -/
abbrev Description (α : Type) := List Exchange → Except Failure α → Prop

namespace Action

variable {α β : Type}

theorem run_pure
    (value : α)
    (world : World) :
    (pure value : Action α).run world = (.ok value, world) := rfl

theorem run_throw
    (failure : Failure)
    (world : World) :
    (throw failure : Action α).run world = (.error failure, world) := rfl

theorem run_get (world : World) :
    (get : Action World).run world = (.ok world, world) := rfl

/-- What comes next is run in the world that the first step leaves, unless that fails. -/
theorem run_bind
    (action : Action α)
    (next : α → Action β)
    (world : World) :
    (action >>= next).run world =
      match action.run world with
      | (.ok value, after) => (next value).run after
      | (.error failure, after) => (.error failure, after) := by
  have stepwise : (action >>= next).run world =
      ExceptT.bindCont next (action.run world).1 (action.run world).2 := rfl
  rw [stepwise]
  rcases action.run world with ⟨_ | _, after⟩ <;> rfl

/-- The run of an action in a world is as a description says. -/
def Conforms
    (action : Action α)
    (world : World)
    (description : Description α) : Prop :=
  ∃ trace, Follows world trace (action.run world).2 ∧ description trace (action.run world).1

section Rules

variable {world : World} {description : Description α}

theorem conforms_pure
    {value : α}
    (holds : description [] (.ok value)) :
    Conforms (pure value) world description :=
  ⟨[], .refl world, holds⟩

theorem conforms_throw
    {failure : Failure}
    (holds : description [] (.error failure)) :
    Conforms (throw failure) world description :=
  ⟨[], .refl world, holds⟩

theorem conforms_fail
    {cause : Cause}
    (holds : description [] (.error (.of cause))) :
    Conforms (fail cause) world description :=
  ⟨[], .refl world, holds⟩

/-- A weaker description fits as well. -/
theorem Conforms.mono
    {action : Action α}
    {stronger : Description α}
    (conforms : Conforms action world stronger)
    (weaken : ∀ trace outcome, stronger trace outcome → description trace outcome) :
    Conforms action world description := by
  obtain ⟨trace, follows, holds⟩ := conforms
  exact ⟨trace, follows, weaken trace _ holds⟩

/-- Two steps conform if a failure of the first is described, and after each of its values the
rest is described. -/
theorem Conforms.bind
    {action : Action β}
    {next : β → Action α}
    {first : Description β}
    (conforms : Conforms action world first)
    (failed : ∀ trace failure, first trace (.error failure) → description trace (.error failure))
    (went : ∀ trace value after, action.run world = (.ok value, after) → first trace (.ok value) →
      Conforms (next value) after fun more outcome => description (trace ++ more) outcome) :
    Conforms (action >>= next) world description := by
  obtain ⟨trace, follows, holds⟩ := conforms
  unfold Conforms
  rw [run_bind]
  cases ran : action.run world with
  | mk outcome after =>
      rw [ran] at follows holds
      cases outcome with
      | error failure => exact ⟨trace, follows, failed trace failure holds⟩
      | ok value =>
          obtain ⟨more, continued, described⟩ := went trace value after ran holds
          exact ⟨trace ++ more, follows.trans continued, described⟩

/-- A step that only looks at the world changes nothing. -/
theorem conforms_observe_bind
    {view : World → β}
    {next : β → Action α}
    (rest : Conforms (next (view world)) world description) :
    Conforms (observe view >>= next) world description := by
  unfold Conforms at rest ⊢
  rwa [run_bind, run_observe]

theorem conforms_get_bind
    {next : World → Action α}
    (rest : Conforms (next world) world description) :
    Conforms (get >>= next) world description :=
  rest

theorem conforms_throw_bind
    {failure : Failure}
    {next : β → Action α}
    (holds : description [] (.error failure)) :
    Conforms (throw failure >>= next) world description := by
  unfold Conforms
  rw [run_bind, run_throw]
  exact ⟨[], .refl world, holds⟩

theorem conforms_fail_bind
    {cause : Cause}
    {next : β → Action α}
    (holds : description [] (.error (.of cause))) :
    Conforms (fail cause >>= next) world description :=
  conforms_throw_bind holds

/-- A record is no exchange. -/
theorem conforms_note (severity : Severity) (message : String) :
    Conforms (note severity message) world fun trace outcome => trace = [] ∧ outcome = .ok () :=
  ⟨[], { Follows.refl world with }, rfl, rfl⟩

theorem conforms_note_bind
    {severity : Severity}
    {message : String}
    {next : Unit → Action α}
    (rest : ∀ after, Conforms (next ()) after description) :
    Conforms (note severity message >>= next) world description := by
  refine (conforms_note severity message).bind ?_ ?_
  · rintro trace failure ⟨_, impossible⟩
    cases impossible
  · rintro trace value after _ ⟨rfl, _⟩
    exact rest after

/-- What comes afterwards is described after the first action, however that ends. -/
theorem Conforms.thenAlways
    {action : Action α}
    {aftermath : Action Unit}
    {first : Description α}
    (conforms : Conforms action world first)
    (cleaned : ∀ trace outcome after, first trace outcome →
      Conforms aftermath after fun more ending =>
        description (trace ++ more) (settle outcome ending)) :
    Conforms (thenAlways action aftermath) world description := by
  obtain ⟨trace, follows, holds⟩ := conforms
  obtain ⟨more, continued, described⟩ := cleaned trace _ (action.run world).2 holds
  exact ⟨trace ++ more, follows.trans continued, described⟩

/-- An attempt ends with the outcome of the action as its value. -/
theorem Conforms.attempt
    {action : Action α}
    (conforms : Conforms action world description) :
    Conforms (attempt action) world fun trace outcome =>
      ∃ result, outcome = .ok result ∧ description trace result := by
  obtain ⟨trace, follows, holds⟩ := conforms
  exact ⟨trace, follows, _, rfl, holds⟩

end Rules
end Action
end Cluster
end Headroom
