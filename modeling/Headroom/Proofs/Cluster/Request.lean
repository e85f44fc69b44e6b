import Headroom.Proofs.Cluster.Conformance

/-!
# What becomes of requests

A request makes one call, and how it ends depends on the outcome of that call and
on nothing else.  The functions of this module say what it makes of an outcome,
with and without tolerance for things that do not exist.

Every failure of a request is original: it has one cause, and there is no earlier
failure in whose wake it arose.
-/

namespace Headroom

/-- A failure that has a single cause, and none before it. -/
def Failure.IsOriginal : Failure → Prop
  | .check (.single _) earlier => earlier = []
  | .check (.cleanup _) _ => False
  | .foreign _ => True
  | .impasse _ => True

namespace Cluster

/-- What a request makes of the outcome of its call. -/
def requested (call : Call) : Outcome call.Reply → Except Failure call.Reply
  | .answered value => .ok value
  | .refused _ reason => .error (.of (.requestFailed call reason))
  | .unreachable reason => .error (.of (.requestFailed call reason))
  | .crashed text => .error (.foreign (.crashed text))

/-- What a request makes of the outcome of its call if its object need not exist. -/
def requestedIfFound (call : Call) : Outcome call.Reply → Except Failure (Option call.Reply)
  | .answered value => .ok (some value)
  | .refused status reason =>
    if status = notFound then .ok none else .error (.of (.requestFailed call reason))
  | .unreachable reason => .error (.of (.requestFailed call reason))
  | .crashed text => .error (.foreign (.crashed text))

/-- The object of a call is not there any more, because of the call or from before. -/
def Outcome.IsGone
    {α : Type} :
    Outcome α → Prop
  | .answered _ => True
  | .refused status _ => status = notFound
  | .unreachable _ => False
  | .crashed _ => False

instance
    {α : Type}
    (outcome : Outcome α) :
    Decidable outcome.IsGone := by
  cases outcome <;> unfold Outcome.IsGone <;> infer_instance

section Results

variable {call : Call} {outcome : Outcome call.Reply} {failure : Failure}

/-- A request succeeds with a value exactly when its call is answered with that value. -/
theorem requested_eq_ok_iff {value : call.Reply} :
    requested call outcome = .ok value ↔ outcome = .answered value := by
  cases outcome <;> simp [requested]

theorem isOriginal_of_requested
    (failed : requested call outcome = .error failure) :
    failure.IsOriginal := by
  cases outcome with
  | answered value => cases failed
  | refused status reason => cases failed; rfl
  | unreachable reason => cases failed; rfl
  | crashed text => cases failed; trivial

/-- A tolerant request fails exactly when the object of its call may still be there. -/
theorem isGone_iff_requestedIfFound :
    outcome.IsGone ↔ ∃ found, requestedIfFound call outcome = .ok found := by
  cases outcome with
  | answered value => simp [Outcome.IsGone, requestedIfFound]
  | refused status reason =>
      by_cases absent : status = notFound <;>
        simp [Outcome.IsGone, requestedIfFound, absent]
  | unreachable reason => simp [Outcome.IsGone, requestedIfFound]
  | crashed text => simp [Outcome.IsGone, requestedIfFound]

theorem not_isGone_of_requestedIfFound
    (failed : requestedIfFound call outcome = .error failure) :
    ¬outcome.IsGone := by
  rw [isGone_iff_requestedIfFound]
  rintro ⟨found, went⟩
  rw [failed] at went
  cases went

theorem isOriginal_of_requestedIfFound
    (failed : requestedIfFound call outcome = .error failure) :
    failure.IsOriginal := by
  cases outcome with
  | answered value => cases failed
  | refused status reason =>
      by_cases absent : status = notFound
      · simp [requestedIfFound, absent] at failed
      · simp only [requestedIfFound, absent, if_false, Except.error.injEq] at failed
        subst failed
        rfl
  | unreachable reason => cases failed; rfl
  | crashed text => cases failed; trivial

/-- A request fails because its call went wrong, or with the fault by which it broke off. -/
theorem requested_error_cases
    (failed : requested call outcome = .error failure) :
    (∃ reason, failure = .of (.requestFailed call reason)) ∨
      ∃ text, failure = .foreign (.crashed text) := by
  cases outcome with
  | answered value => cases failed
  | refused status reason => cases failed; exact .inl ⟨reason, rfl⟩
  | unreachable reason => cases failed; exact .inl ⟨reason, rfl⟩
  | crashed text => cases failed; exact .inr ⟨text, rfl⟩

/-- A tolerant request fails in the same ways. -/
theorem requestedIfFound_error_cases
    (failed : requestedIfFound call outcome = .error failure) :
    (∃ reason, failure = .of (.requestFailed call reason)) ∨
      ∃ text, failure = .foreign (.crashed text) := by
  cases outcome with
  | answered value => cases failed
  | refused status reason =>
      dsimp only [requestedIfFound] at failed
      split at failed
      · cases failed
      · cases failed
        exact .inl ⟨reason, rfl⟩
  | unreachable reason => cases failed; exact .inl ⟨reason, rfl⟩
  | crashed text => cases failed; exact .inr ⟨text, rfl⟩

end Results

namespace Action

theorem run_request (call : Call) (world : World) :
    (request call).run world =
      (requested call (world.respond call).outcome, world.afterCall call) := by
  unfold request
  rw [run_bind, run_call]
  cases (world.respond call).outcome <;> rfl

theorem run_requestIfFound (call : Call) (world : World) :
    (requestIfFound call).run world =
      (requestedIfFound call (world.respond call).outcome, world.afterCall call) := by
  unfold requestIfFound
  rw [run_bind, run_call]
  cases (world.respond call).outcome with
  | refused status reason =>
      by_cases absent : status = notFound <;>
        simp [requestedIfFound, absent, run_pure]
  | _ => rfl

/-- A request makes one exchange. -/
theorem conforms_request (call : Call) (world : World) :
    Conforms (request call) world fun trace outcome =>
      ∃ reply, trace = [⟨call, reply⟩] ∧ outcome = requested call reply := by
  unfold Conforms
  rw [run_request]
  exact ⟨_, .afterCall world call, _, rfl, rfl⟩

/-- A tolerant request makes one exchange. -/
theorem conforms_requestIfFound (call : Call) (world : World) :
    Conforms (requestIfFound call) world fun trace outcome =>
      ∃ reply, trace = [⟨call, reply⟩] ∧ outcome = requestedIfFound call reply := by
  unfold Conforms
  rw [run_requestIfFound]
  exact ⟨_, .afterCall world call, _, rfl, rfl⟩

section Rules

variable {α : Type} {call : Call} {world : World} {description : Description α}

/-- A request followed by other steps, which are taken only if it is answered. -/
theorem conforms_request_bind
    {next : call.Reply → Action α}
    (failed : ∀ reply failure, requested call reply = .error failure →
      description [⟨call, reply⟩] (.error failure))
    (answered : ∀ value, Conforms (next value) (world.afterCall call) fun more outcome =>
      description (⟨call, .answered value⟩ :: more) outcome) :
    Conforms (request call >>= next) world description := by
  refine (conforms_request call world).bind ?_ ?_
  · rintro trace failure ⟨reply, rfl, ended⟩
    exact failed reply failure ended.symm
  · rintro trace value after ran ⟨reply, rfl, ended⟩
    rw [eq_comm, requested_eq_ok_iff] at ended
    rw [run_request, Prod.mk.injEq] at ran
    obtain ⟨_, rfl⟩ := ran
    subst ended
    exact answered value

/-- A tolerant request whose answer does not matter, followed by other steps. -/
theorem conforms_discard_bind
    {next : Unit → Action α}
    (failed : ∀ reply failure, requestedIfFound call reply = .error failure →
      description [⟨call, reply⟩] (.error failure))
    (went : ∀ reply, reply.IsGone →
      ∀ after, Conforms (next ()) after fun more outcome =>
        description (⟨call, reply⟩ :: more) outcome) :
    Conforms (discard (requestIfFound call) >>= next) world description := by
  have sameSteps : (discard (requestIfFound call) >>= next) =
      (requestIfFound call >>= fun _ => next ()) := by
    simp [discard, LawfulFunctor.map_const]
  rw [sameSteps]
  refine (conforms_requestIfFound call world).bind ?_ ?_
  · rintro trace failure ⟨reply, rfl, ended⟩
    exact failed reply failure ended.symm
  · rintro trace found after - ⟨reply, rfl, ended⟩
    exact went reply (isGone_iff_requestedIfFound.mpr ⟨found, ended.symm⟩) after

end Rules
end Action
end Cluster
end Headroom
