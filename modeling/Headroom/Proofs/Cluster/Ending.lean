import Headroom.Proofs.Cluster.Request

/-!
# Actions that avoid an impasse

An action comes to an end in a world if it does not report that it would go on for
ever, which is one kind of impasse.  To avoid it depends on time going on: no answer
of a timely script comes before the call for it.

The rules below follow the way in which actions are put together.  Every action
that they cover leaves the script as it is and does not turn the clock back.
-/

namespace Headroom
namespace Cluster

/-- No response comes before its call. -/
def Script.IsTimely (script : Script) : Prop :=
  ∀ method, ∀ route ∈ script.routes method, ∀ response ∈ route.responses, 0 ≤ response.delay

/-- A call for which nothing is prepared is answered at once. -/
@[simp] theorem Method.delay_unscripted (argument : String) (method : Method) :
    (method.unscripted argument).delay = 0 := by
  cases method <;> rfl

namespace Script

variable {script : Script} {call : Call}

/-- The route of a call is one of its method. -/
theorem route?_mem
    {route : Route call.Reply}
    (found : script.route? call = some route) :
    route ∈ script.routes call.method := by
  rw [route?, Option.or_eq_some_iff] at found
  rcases found with found | ⟨-, found⟩ <;> exact List.mem_of_find?_eq_some found

/-- A call gets one of the responses prepared for its method, or the one for which nothing has to
be prepared. -/
theorem respond_cases (script : Script) (earlier : List Call) (call : Call) :
    script.respond earlier call = call.method.unscripted call.argument ∨
      ∃ route ∈ script.routes call.method, script.respond earlier call ∈ route.responses := by
  unfold respond
  split
  · exact .inl rfl
  · rename_i route found
    cases answer :
        route.responses[script.callsBefore earlier call]?.or route.responses.getLast? with
    | none => exact .inl rfl
    | some response =>
        refine .inr ⟨route, route?_mem found, ?_⟩
        rw [Option.getD_some]
        rw [Option.or_eq_some_iff] at answer
        rcases answer with prepared | ⟨-, last⟩
        · exact List.mem_of_getElem? prepared
        · exact List.mem_of_getLast? last

/-- In a timely script, every call is answered after it was made. -/
theorem IsTimely.delay_nonneg
    (timely : script.IsTimely)
    (earlier : List Call) :
    0 ≤ (script.respond earlier call).delay := by
  rcases script.respond_cases earlier call with unprepared | ⟨route, listed, prepared⟩
  · have immediate : (script.respond earlier call).delay = 0 := by
      rw [unprepared, Method.delay_unscripted]
    exact immediate ▸ Rat.le_refl
  · exact timely call.method route listed _ prepared

end Script

/-- A world in which time has gone on since another one. -/
structure Later (before after : World) : Prop where
  script_eq : after.script = before.script
  clock_le : before.clock ≤ after.clock

namespace Later

theorem refl (world : World) : Later world world :=
  { script_eq := rfl
    clock_le := Rat.le_refl }

theorem trans
    {before middle after : World}
    (first : Later before middle)
    (second : Later middle after) :
    Later before after :=
  { script_eq := second.script_eq.trans first.script_eq
    clock_le := Rat.le_trans first.clock_le second.clock_le }

theorem isTimely
    {before after : World}
    (later : Later before after)
    (timely : before.script.IsTimely) :
    after.script.IsTimely := by
  rwa [later.script_eq]

theorem afterCall
    {world : World}
    (timely : world.script.IsTimely)
    (call : Call) :
    Later world (world.afterCall call) := by
  refine ⟨rfl, ?_⟩
  have delayed : 0 ≤ (world.respond call).delay := timely.delay_nonneg world.calls
  rw [World.clock_afterCall]
  grind

end Later

namespace Action

variable {α β : Type}

/-- An action does not run into an impasse in a world while time goes on. -/
def AvoidsIn
    (impasse : Impasse)
    (action : Action α)
    (world : World) : Prop :=
  (action.run world).1 ≠ .error (.impasse impasse) ∧ Later world (action.run world).2

/-- An action does not run into an impasse wherever no answer comes too early. -/
def Avoids
    (impasse : Impasse)
    (action : Action α) : Prop :=
  ∀ world, world.script.IsTimely → AvoidsIn impasse action world

variable {impasse : Impasse}

theorem avoidsIn_fail (cause : Cause) (world : World) :
    AvoidsIn impasse (fail cause : Action α) world :=
  ⟨nofun, .refl world⟩

/-- One action after the other avoids an impasse if both do. -/
theorem AvoidsIn.bind
    {action : Action α}
    {next : α → Action β}
    {world : World}
    (first : AvoidsIn impasse action world)
    (rest : ∀ value after, action.run world = (.ok value, after) → Later world after →
      AvoidsIn impasse (next value) after) :
    AvoidsIn impasse (action >>= next) world := by
  obtain ⟨finite, later⟩ := first
  unfold AvoidsIn
  rw [run_bind]
  cases ran : action.run world with
  | mk outcome after =>
      rw [ran] at finite later
      cases outcome with
      | ok value =>
          obtain ⟨ended, evenLater⟩ := rest value after ran later
          exact ⟨ended, later.trans evenLater⟩
      | error failure =>
          refine ⟨?_, later⟩
          rintro ⟨⟩
          exact finite rfl

theorem avoidsIn_fail_bind
    {cause : Cause}
    {next : β → Action α}
    (world : World) :
    AvoidsIn impasse (fail cause >>= next) world :=
  (avoidsIn_fail cause world).bind nofun

/-- A step that only looks at the world changes nothing. -/
theorem avoidsIn_observe_bind
    {view : World → β}
    {next : β → Action α}
    {world : World}
    (rest : AvoidsIn impasse (next (view world)) world) :
    AvoidsIn impasse (observe view >>= next) world := by
  unfold AvoidsIn at rest ⊢
  rwa [run_bind, run_observe]

theorem avoidsIn_get_bind
    {next : World → Action α}
    {world : World}
    (rest : AvoidsIn impasse (next world) world) :
    AvoidsIn impasse (get >>= next) world := by
  unfold AvoidsIn at rest ⊢
  rwa [run_bind, run_get]

theorem avoids_pure (value : α) : Avoids impasse (pure value) :=
  fun world _ => ⟨nofun, .refl world⟩

theorem avoids_throw
    {failure : Failure}
    (finite : failure ≠ .impasse impasse) :
    Avoids impasse (throw failure : Action α) := by
  refine fun world _ => ⟨?_, .refl world⟩
  rw [run_throw]
  rintro ⟨⟩
  exact finite rfl

theorem avoids_fail (cause : Cause) : Avoids impasse (fail cause : Action α) :=
  fun world _ => avoidsIn_fail cause world

theorem avoids_record (severity : Severity) (message : Text) :
    Avoids impasse (record severity message) :=
  fun world _ => ⟨nofun, { Later.refl world with }⟩

theorem avoids_note (severity : Severity) (message : String) :
    Avoids impasse (note severity message) :=
  avoids_record severity _

theorem avoids_drawSuffix : Avoids impasse drawSuffix :=
  fun world _ => ⟨nofun, { Later.refl world with }⟩

theorem avoids_call (request : Call) : Avoids impasse (call request) :=
  fun _ timely => ⟨nofun, .afterCall timely request⟩

theorem Avoids.bind
    {action : Action α}
    {next : α → Action β}
    (first : Avoids impasse action)
    (rest : ∀ value, Avoids impasse (next value)) :
    Avoids impasse (action >>= next) := by
  intro world timely
  refine (first world timely).bind ?_
  intro value after _ later
  exact rest value after (later.isTimely timely)

theorem avoids_throw_bind
    {failure : Failure}
    {next : β → Action α}
    (finite : failure ≠ .impasse impasse) :
    Avoids impasse (throw failure >>= next) :=
  fun world timely => (avoids_throw finite world timely).bind nofun

theorem avoids_fail_bind
    {cause : Cause}
    {next : β → Action α} :
    Avoids impasse (fail cause >>= next) :=
  fun world _ => avoidsIn_fail_bind world

theorem Avoids.map
    {action : Action α}
    (avoids : Avoids impasse action)
    (change : α → β) :
    Avoids impasse (change <$> action) :=
  avoids.bind fun value => avoids_pure (change value)

/-- An action and its aftermath settle to no impasse if both avoid it. -/
theorem settle_ne_impasse
    {outcome : Except Failure α}
    {ending : Except Failure Unit}
    (finite : outcome ≠ .error (.impasse impasse))
    (ended : ending ≠ .error (.impasse impasse)) :
    settle outcome ending ≠ .error (.impasse impasse) := by
  match outcome, ending with
  | outcome, .ok () => rwa [settle_ok]
  | .ok value, .error later =>
      rintro ⟨⟩
      exact ended rfl
  | .error earlier, .error (.check error others) => exact nofun
  | .error earlier, .error (.foreign fault) => exact nofun
  | .error earlier, .error (.impasse reason) =>
      rintro ⟨⟩
      exact ended rfl

/-- What comes afterwards needs to avoid the impasse as well. -/
theorem Avoids.thenAlways
    {action : Action α}
    {aftermath : Action Unit}
    (first : Avoids impasse action)
    (cleaned : Avoids impasse aftermath) :
    Avoids impasse (thenAlways action aftermath) := by
  intro world timely
  obtain ⟨finite, later⟩ := first world timely
  obtain ⟨ended, evenLater⟩ := cleaned _ (later.isTimely timely)
  exact ⟨settle_ne_impasse finite ended, later.trans evenLater⟩

/-- Whoever attempts an action that avoids an impasse need not go on after one. -/
theorem Avoids.attempt_bind
    {action : Action α}
    {next : Except Failure α → Action β}
    (first : Avoids impasse action)
    (rest : ∀ outcome, outcome ≠ .error (.impasse impasse) → Avoids impasse (next outcome)) :
    Avoids impasse (attempt action >>= next) := by
  intro world timely
  obtain ⟨finite, later⟩ := first world timely
  have attempted : AvoidsIn impasse (attempt action) world := ⟨nofun, later⟩
  refine attempted.bind ?_
  rintro outcome after ran evenLater
  rw [run_attempt, Prod.mk.injEq, Except.ok.injEq] at ran
  obtain ⟨rfl, -⟩ := ran
  exact rest _ finite after (evenLater.isTimely timely)

theorem avoids_request (call : Call) : Avoids impasse (request call) := by
  refine (avoids_call call).bind ?_
  rintro (value | ⟨status, reason⟩ | reason | text)
  · exact avoids_pure value
  · exact avoids_fail _
  · exact avoids_fail _
  · exact avoids_throw nofun

theorem avoids_requestIfFound (call : Call) : Avoids impasse (requestIfFound call) := by
  refine (avoids_call call).bind ?_
  rintro (value | ⟨status, reason⟩ | reason | text)
  · exact avoids_pure _
  · dsimp only
    split
    · exact avoids_pure none
    · exact avoids_fail _
  · exact avoids_fail _
  · exact avoids_throw nofun

end Action
end Cluster
end Headroom
