import Headroom.Proofs.Cluster.Request

/-!
# Runs that are alike

Records are written in a run and never read.  So a run goes the same way in worlds that
differ in their records only, and two actions that differ in what they record go the same
way in one world.

Two actions are alike if their runs, in worlds that differ in their records only, leave
worlds that differ in their records only, and fail alike or end with values that
correspond to each other.  An action that is like itself is oblivious: what has been
recorded makes no difference to it.
-/

namespace Headroom
namespace Cluster

variable {α β γ δ : Type}

/-- Two runs end alike: they fail in the same way, or their values correspond to each other. -/
inductive EndsAlike
    (values : α → β → Prop) :
    Except Failure α → Except Failure β → Prop
  | failed
      (failure : Failure) :
      EndsAlike values (.error failure) (.error failure)
  | went
      {first : α}
      {second : β}
      (corresponds : values first second) :
      EndsAlike values (.ok first) (.ok second)

/-- Ends whose values correspond by being equal are equal. -/
theorem endsAlike_eq_iff {first second : Except Failure α} :
    EndsAlike (· = ·) first second ↔ first = second := by
  constructor
  · rintro (_ | rfl)
    · rfl
    · rfl
  · rintro rfl
    cases first with
    | error failure => exact .failed failure
    | ok value => exact .went rfl

/-- Two runs are alike if they end alike, in worlds that differ in their records only. -/
structure RunsAlike
    (values : α → β → Prop)
    (first : Except Failure α × World)
    (second : Except Failure β × World) : Prop where
  ends : EndsAlike values first.1 second.1
  world_eq : ∃ records, second.2 = { first.2 with records }

namespace RunsAlike

variable
  {values : α → β → Prop}
  {first : Except Failure α × World}
  {second : Except Failure β × World}

theorem history_eq (alike : RunsAlike values first second) :
    second.2.history = first.2.history := by
  obtain ⟨records, world_eq⟩ := alike.world_eq
  rw [world_eq]

theorem clock_eq (alike : RunsAlike values first second) :
    second.2.clock = first.2.clock := by
  obtain ⟨records, world_eq⟩ := alike.world_eq
  rw [world_eq]

end RunsAlike

namespace Action

/-- The runs of two actions are alike in worlds that differ in their records only. -/
def Alike
    (values : α → β → Prop)
    (first : Action α)
    (second : Action β) : Prop :=
  ∀ world records,
    RunsAlike values (first.run world) (second.run { world with records })

/-- What has been recorded makes no difference to an action. -/
def Oblivious (action : Action α) : Prop :=
  Alike (· = ·) action action

/-- An action does nothing but record, and ends in a certain way. -/
def OnlyRecords
    (action : Action α)
    (outcome : Except Failure α) : Prop :=
  ∀ world, ∃ records, action.run world = (outcome, { world with records })

section Alike

variable {values : α → β → Prop} {results : γ → δ → Prop}

theorem alike_pure
    {first : α}
    {second : β}
    (corresponds : values first second) :
    Alike values (pure first) (pure second) :=
  fun _ records => ⟨.went corresponds, records, rfl⟩

theorem alike_throw (failure : Failure) : Alike values (throw failure) (throw failure) :=
  fun _ records => ⟨.failed failure, records, rfl⟩

/-- Alike steps may be followed by steps that are alike whenever their values correspond. -/
theorem Alike.bind
    {first : Action α}
    {second : Action β}
    {firstNext : α → Action γ}
    {secondNext : β → Action δ}
    (alike : Alike values first second)
    (rest : ∀ one other, values one other → Alike results (firstNext one) (secondNext other)) :
    Alike results (first >>= firstNext) (second >>= secondNext) := by
  intro world records
  obtain ⟨ends, more, world_eq⟩ := alike world records
  rw [run_bind, run_bind]
  rcases firstRan : first.run world with ⟨firstEnd, firstAfter⟩
  rcases secondRan : second.run { world with records } with ⟨secondEnd, secondAfter⟩
  rw [firstRan, secondRan] at ends world_eq
  dsimp only at ends world_eq
  subst world_eq
  cases ends with
  | failed failure => exact ⟨.failed failure, more, rfl⟩
  | went corresponds => exact rest _ _ corresponds firstAfter more

/-- Two actions that do nothing but record are alike if they end alike. -/
theorem OnlyRecords.alike
    {first : Action α}
    {second : Action β}
    {firstEnd : Except Failure α}
    {secondEnd : Except Failure β}
    (firstRecords : OnlyRecords first firstEnd)
    (secondRecords : OnlyRecords second secondEnd)
    (ends : EndsAlike values firstEnd secondEnd) :
    Alike values first second := by
  intro world records
  obtain ⟨firstMore, firstRan⟩ := firstRecords world
  obtain ⟨secondMore, secondRan⟩ := secondRecords { world with records }
  rw [firstRan, secondRan]
  exact ⟨ends, secondMore, rfl⟩

/-- Attempts of alike actions have corresponding ends as their values. -/
theorem Alike.attempt
    {first : Action α}
    {second : Action β}
    (alike : Alike values first second) :
    Alike (EndsAlike values) (attempt first) (attempt second) := by
  intro world records
  obtain ⟨ends, more, world_eq⟩ := alike world records
  exact ⟨.went ends, more, world_eq⟩

end Alike

section Oblivious

variable {values : γ → δ → Prop}

/-- An oblivious step may be followed by steps that are alike. -/
theorem Oblivious.bind_alike
    {action : Action α}
    {first : α → Action γ}
    {second : α → Action δ}
    (oblivious : Oblivious action)
    (rest : ∀ value, Alike values (first value) (second value)) :
    Alike values (action >>= first) (action >>= second) := by
  refine Alike.bind oblivious ?_
  rintro value _ rfl
  exact rest value

theorem Oblivious.bind
    {action : Action α}
    {next : α → Action β}
    (oblivious : Oblivious action)
    (rest : ∀ value, Oblivious (next value)) :
    Oblivious (action >>= next) :=
  oblivious.bind_alike rest

theorem oblivious_pure (value : α) : Oblivious (pure value) :=
  alike_pure rfl

theorem oblivious_throw (failure : Failure) : Oblivious (throw failure : Action α) :=
  alike_throw failure

theorem oblivious_fail (cause : Cause) : Oblivious (fail cause : Action α) :=
  alike_throw (.of cause)

/-- After a failure nothing is done that could look at the records. -/
theorem oblivious_throw_bind
    {failure : Failure}
    {next : α → Action β} :
    Oblivious (throw failure >>= next) := by
  have failed : Alike (fun (_ _ : α) => False) (throw failure) (throw failure) :=
    alike_throw failure
  exact failed.bind nofun

theorem oblivious_fail_bind
    {cause : Cause}
    {next : α → Action β} :
    Oblivious (fail cause >>= next) :=
  oblivious_throw_bind

theorem oblivious_record (severity : Severity) (message : Text) :
    Oblivious (record severity message) :=
  fun _ _ => ⟨.went rfl, _, rfl⟩

theorem oblivious_note (severity : Severity) (message : String) :
    Oblivious (note severity message) :=
  oblivious_record severity _

theorem oblivious_drawSuffix : Oblivious drawSuffix :=
  fun _ records => ⟨.went rfl, records, rfl⟩

/-- An observation is oblivious if it does not look at the records. -/
theorem oblivious_observe
    {view : World → α}
    (blind : ∀ world records, view { world with records } = view world) :
    Oblivious (observe view) :=
  fun world records => ⟨.went (blind world records).symm, records, rfl⟩

/-- The world itself may be asked for by what does not look at its records. -/
theorem oblivious_get_bind
    {next : World → Action α}
    (rest : ∀ world records, RunsAlike (· = ·)
      ((next world).run world) ((next { world with records }).run { world with records })) :
    Oblivious (get >>= next) :=
  rest

theorem oblivious_call (call : Call) : Oblivious (Action.call call) :=
  fun _ records => ⟨.went rfl, records, rfl⟩

theorem Oblivious.map
    {action : Action α}
    (oblivious : Oblivious action)
    (change : α → β) :
    Oblivious (change <$> action) :=
  oblivious.bind fun value => oblivious_pure (change value)

/-- An oblivious action ends in the same way whatever has been recorded, and leaves the same world
but for the records. -/
theorem Oblivious.run_eq
    {action : Action α}
    (oblivious : Oblivious action)
    (world : World)
    (records : List Record) :
    ∃ more, action.run { world with records } =
      ((action.run world).1, { (action.run world).2 with records := more }) := by
  obtain ⟨ends, more, world_eq⟩ := oblivious world records
  exact ⟨more, Prod.ext (endsAlike_eq_iff.mp ends).symm world_eq⟩

/-- What comes afterwards has to be oblivious as well. -/
theorem Oblivious.thenAlways
    {action : Action α}
    {aftermath : Action Unit}
    (oblivious : Oblivious action)
    (cleaned : Oblivious aftermath) :
    Oblivious (thenAlways action aftermath) := by
  intro world records
  obtain ⟨more, ran⟩ := oblivious.run_eq world records
  obtain ⟨evenMore, ranAfterwards⟩ := cleaned.run_eq (action.run world).2 more
  rw [run_thenAlways, run_thenAlways, ran, ranAfterwards]
  exact ⟨endsAlike_eq_iff.mpr rfl, evenMore, rfl⟩

/-- Whoever attempts an oblivious action is told of its end, which is the same each time. -/
theorem Oblivious.attempt_bind
    {action : Action α}
    {next : Except Failure α → Action β}
    (oblivious : Oblivious action)
    (rest : ∀ outcome, Oblivious (next outcome)) :
    Oblivious (attempt action >>= next) := by
  refine oblivious.attempt.bind ?_
  intro first second ends
  obtain rfl := endsAlike_eq_iff.mp ends
  exact rest first

theorem oblivious_request (call : Call) : Oblivious (request call) := by
  refine (oblivious_call call).bind ?_
  rintro (value | ⟨status, reason⟩ | reason | text)
  · exact oblivious_pure value
  · exact oblivious_fail _
  · exact oblivious_fail _
  · exact oblivious_throw _

theorem oblivious_requestIfFound (call : Call) : Oblivious (requestIfFound call) := by
  refine (oblivious_call call).bind ?_
  rintro (value | ⟨status, reason⟩ | reason | text)
  · exact oblivious_pure _
  · dsimp only
    split
    · exact oblivious_pure none
    · exact oblivious_fail _
  · exact oblivious_fail _
  · exact oblivious_throw _

end Oblivious
end Action
end Cluster
end Headroom
