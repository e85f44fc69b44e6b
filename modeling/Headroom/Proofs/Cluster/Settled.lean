import Headroom.Proofs.Cluster.Ending

/-!
# Settled scripts

A script is settled if it has one response at most for each of its routes.  Then what
was called before makes no difference to a call, and the ends of actions can be read
off the script while no run is cancelled.

A script is anonymous if it does not tell probes apart by the names of their claims
and jobs.  Calls about these get the same response whatever the names.
-/

namespace Headroom
namespace Cluster

/-- The value of an answer, if there is one. -/
def Outcome.answer?
    {α : Type} :
    Outcome α → Option α
  | .answered value => some value
  | _ => none

/-- Whether calls of a method are about the claim or the job of a probe. -/
def Method.isOfProbe : Method → Bool
  | .createClaim | .deleteClaim => true
  | .createJob | .readJobStatus | .deleteJob | .listPods => true
  | _ => false

/-- A request succeeds with the answer to its call. -/
theorem toOption_requested (call : Call) (outcome : Outcome call.Reply) :
    (requested call outcome).toOption = outcome.answer? := by
  cases outcome <;> rfl

namespace Script

/-- There is no more than one response for each route. -/
def IsSettled (script : Script) : Prop :=
  ∀ method, ∀ route ∈ script.routes method, route.responses.length ≤ 1

/-- Responses to calls about claims and jobs do not depend on their names. -/
def IsAnonymous (script : Script) : Prop :=
  ∀ method, method.isOfProbe = true → ∀ route ∈ script.routes method, route.argument = none

/-- The response that the calls of a method get first if they are not told apart. -/
def standing
    (script : Script)
    (method : Method) : Response method.Reply :=
  ((script.routes method).head?.bind fun route => route.responses.head?).getD
    (method.unscripted "")

section Responses

variable {script : Script}

/-- The one response of a route is its first and its last one. -/
theorem response?_of_length_le
    {α : Type}
    {responses : List (Response α)}
    (single : responses.length ≤ 1)
    (before : Nat) :
    responses[before]?.or responses.getLast? = responses.head? := by
  match responses, single with
  | [], _ => rfl
  | [response], _ => cases before <;> rfl

/-- In a settled script it makes no difference which calls were made before. -/
theorem IsSettled.respond_eq
    (settled : script.IsSettled)
    (earlier : List Call)
    (call : Call) :
    script.respond earlier call = script.respond [] call := by
  unfold respond
  cases found : script.route? call with
  | none => rfl
  | some route =>
      have single := settled call.method route (route?_mem found)
      dsimp only
      rw [response?_of_length_le single, response?_of_length_le single]

/-- What is not prepared for a probe does not depend on its name. -/
theorem unscripted_eq_of_isOfProbe
    {method : Method}
    (ofProbe : method.isOfProbe = true)
    (argument : String) :
    method.unscripted argument = method.unscripted "" := by
  cases method with
  | readNode => cases ofProbe
  | _ => rfl

/-- If no route of a method is for one argument only, all of its calls go to the first one. -/
theorem route?_eq_head?
    {call : Call}
    (nameless : ∀ route ∈ script.routes call.method, route.argument = none) :
    script.route? call = (script.routes call.method).head? := by
  unfold route?
  generalize script.routes call.method = routes at nameless
  have unnamed : routes.find? (fun route => route.argument == some call.argument) = none := by
    rw [List.find?_eq_none]
    intro route listed
    simp [nameless route listed]
  dsimp only
  rw [unnamed, Option.none_or]
  cases routes with
  | nil => rfl
  | cons route others =>
      refine List.find?_cons_of_pos ?_
      rw [nameless route List.mem_cons_self]
      rfl

/-- A settled and anonymous script has one response for all calls of a method about probes. -/
theorem IsAnonymous.respond_eq
    (anonymous : script.IsAnonymous)
    (settled : script.IsSettled)
    {call : Call}
    (ofProbe : call.method.isOfProbe = true)
    (earlier : List Call) :
    script.respond earlier call = script.standing call.method := by
  have single := settled call.method
  unfold respond standing
  rw [route?_eq_head? (anonymous call.method ofProbe),
    unscripted_eq_of_isOfProbe ofProbe call.argument]
  cases first : (script.routes call.method).head? with
  | none => rfl
  | some route =>
      dsimp only [Option.bind_some]
      rw [response?_of_length_le (single route (List.mem_of_head? first))]

end Responses
end Script

/-- A world goes by a script, and runs in it are never cancelled. -/
structure Undisturbed
    (script : Script)
    (world : World) : Prop where
  script_eq : world.script = script
  cancellation_eq : world.cancellation = .never

namespace Undisturbed

variable {script : Script} {world after : World}

theorem of_follows
    (undisturbed : Undisturbed script world)
    {trace : List Exchange}
    (follows : Follows world trace after) :
    Undisturbed script after :=
  { script_eq := follows.script_eq.trans undisturbed.script_eq
    cancellation_eq := follows.cancellation_eq.trans undisturbed.cancellation_eq }

theorem isCancelled_eq (undisturbed : Undisturbed script world) : world.isCancelled = false := by
  rw [World.isCancelled, undisturbed.cancellation_eq]
  rfl

theorem respond_eq
    (undisturbed : Undisturbed script world)
    (settled : script.IsSettled)
    (call : Call) :
    world.respond call = script.respond [] call := by
  rw [World.respond, undisturbed.script_eq, settled.respond_eq]

end Undisturbed

/-- The outcomes of exchanges are those that a script gives first. -/
def RepliesOf
    (script : Script)
    (trace : List Exchange) : Prop :=
  ∀ exchange ∈ trace, exchange.outcome = (script.respond [] exchange.call).outcome

section Replies

variable {script : Script} {trace : List Exchange}

/-- Exchanges in an undisturbed world have the outcomes that a settled script gives first. -/
theorem Undisturbed.repliesOf
    {world after : World}
    (undisturbed : Undisturbed script world)
    (settled : script.IsSettled)
    (follows : Follows world trace after) :
    RepliesOf script trace := by
  intro exchange present
  obtain ⟨earlier, answered⟩ := follows.answered exchange present
  rw [answered, undisturbed.script_eq, settled.respond_eq]

theorem RepliesOf.tail
    {exchange : Exchange}
    (replied : RepliesOf script (exchange :: trace)) :
    RepliesOf script trace :=
  fun later present => replied later (List.mem_cons_of_mem _ present)

/-- The outcome of a call is the one that the script gives first. -/
theorem RepliesOf.outcome_eq
    (replied : RepliesOf script trace)
    {call : Call}
    {reply : Outcome call.Reply}
    (made : ⟨call, reply⟩ ∈ trace) :
    (script.respond [] call).outcome = reply :=
  (replied _ made).symm

/-- The outcome of a call about a probe is the one of all such calls. -/
theorem RepliesOf.standing_eq
    (replied : RepliesOf script trace)
    (settled : script.IsSettled)
    (anonymous : script.IsAnonymous)
    (call : Call)
    {reply : Outcome call.Reply}
    (made : ⟨call, reply⟩ ∈ trace)
    (ofProbe : call.method.isOfProbe = true) :
    (script.standing call.method).outcome = reply := by
  rw [← anonymous.respond_eq settled ofProbe [], replied.outcome_eq made]

end Replies

namespace Action

variable {α β : Type}

/-- A script foretells that an action ends with a value, or that it fails. -/
def Foretells
    (script : Script)
    (action : Action α)
    (result : Option α) : Prop :=
  ∀ world, Undisturbed script world →
    (action.run world).1.toOption = result ∧ Undisturbed script (action.run world).2

section Rules

variable {script : Script}

theorem foretells_pure (value : α) : Foretells script (pure value) (some value) :=
  fun _ undisturbed => ⟨rfl, undisturbed⟩

theorem foretells_throw (failure : Failure) : Foretells script (throw failure : Action α) none :=
  fun _ undisturbed => ⟨rfl, undisturbed⟩

theorem foretells_fail (cause : Cause) : Foretells script (fail cause : Action α) none :=
  foretells_throw (.of cause)

/-- What comes after a value that is foretold is done with that value. -/
theorem Foretells.bind_some
    {action : Action α}
    {next : α → Action β}
    {value : α}
    {result : Option β}
    (foretells : Foretells script action (some value))
    (rest : Foretells script (next value) result) :
    Foretells script (action >>= next) result := by
  intro world undisturbed
  obtain ⟨ends, stays⟩ := foretells world undisturbed
  rw [run_bind]
  rcases ran : action.run world with ⟨failure | other, after⟩
  · rw [ran] at ends
    cases ends
  · rw [ran] at ends stays
    cases ends
    exact rest after stays

/-- Nothing comes after a failure that is foretold. -/
theorem Foretells.bind_none
    {action : Action α}
    {next : α → Action β}
    (foretells : Foretells script action none) :
    Foretells script (action >>= next) none := by
  intro world undisturbed
  obtain ⟨ends, stays⟩ := foretells world undisturbed
  rw [run_bind]
  rcases ran : action.run world with ⟨failure | other, after⟩
  · rw [ran] at stays
    exact ⟨rfl, stays⟩
  · rw [ran] at ends
    cases ends

theorem Foretells.bind
    {action : Action α}
    {next : α → Action β}
    {result : Option α}
    {results : α → Option β}
    (foretells : Foretells script action result)
    (rest : ∀ value, Foretells script (next value) (results value)) :
    Foretells script (action >>= next) (result.bind results) := by
  cases result with
  | none => exact foretells.bind_none
  | some value => exact foretells.bind_some (rest value)

/-- What is foretold whatever is seen is foretold. -/
theorem foretells_observe_bind
    {view : World → α}
    {next : α → Action β}
    {result : Option β}
    (rest : ∀ value, Foretells script (next value) result) :
    Foretells script (observe view >>= next) result := by
  intro world undisturbed
  rw [run_bind, run_observe]
  exact rest (view world) world undisturbed

theorem foretells_note (severity : Severity) (message : String) :
    Foretells script (note severity message) (some ()) :=
  fun _ undisturbed => ⟨rfl, { undisturbed with }⟩

/-- An action and its aftermath go well if both do. -/
theorem Foretells.thenAlways
    {action : Action α}
    {aftermath : Action Unit}
    {result : Option α}
    {ending : Option Unit}
    (foretells : Foretells script action result)
    (cleaned : Foretells script aftermath ending) :
    Foretells script (thenAlways action aftermath) (ending.bind fun _ => result) := by
  intro world undisturbed
  obtain ⟨ends, stays⟩ := foretells world undisturbed
  obtain ⟨endsToo, staysToo⟩ := cleaned _ stays
  rw [run_thenAlways]
  refine ⟨?_, staysToo⟩
  rw [← ends, ← endsToo]
  generalize (action.run world).1 = outcome
  rcases (aftermath.run (action.run world).2).1 with later | ⟨⟩
  · cases outcome <;> rfl
  · rw [settle_ok]
    rfl

/-- What is foretold of all runs that follow a description is foretold. -/
theorem foretells_of_conforms
    {action : Action α}
    {result : Option α}
    {description : Description α}
    (settled : script.IsSettled)
    (conforms : ∀ world, Conforms action world description)
    (described : ∀ trace outcome, RepliesOf script trace → description trace outcome →
      outcome.toOption = result) :
    Foretells script action result := by
  intro world undisturbed
  obtain ⟨trace, follows, holds⟩ := conforms world
  have replied := undisturbed.repliesOf settled follows
  exact ⟨described trace _ replied holds, undisturbed.of_follows follows⟩

/-- A request ends as the script responds first. -/
theorem foretells_request
    (settled : script.IsSettled)
    (call : Call) :
    Foretells script (request call) (script.respond [] call).outcome.answer? := by
  intro world undisturbed
  rw [run_request, undisturbed.respond_eq settled]
  exact ⟨toOption_requested call _, undisturbed.of_follows (.afterCall world call)⟩

/-- A request about a probe ends as the script responds to all of its kind. -/
theorem foretells_request_ofProbe
    (settled : script.IsSettled)
    (anonymous : script.IsAnonymous)
    {call : Call}
    (ofProbe : call.method.isOfProbe = true) :
    Foretells script (request call) (script.standing call.method).outcome.answer? := by
  rw [← anonymous.respond_eq settled ofProbe []]
  exact foretells_request settled call

end Rules
end Action
end Cluster
end Headroom
