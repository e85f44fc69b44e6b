import Headroom.Proofs.Probe.Timeline

/-!
# The legs of a run

A run moves on in legs: calls that are made once, and waits that put one question
again and again.  Between two legs, records may be written and suffixes may be drawn,
and nothing else changes.  So whatever time passes, passes in a leg.

The rules below follow the way in which actions are put together.  They keep an account
of where a run finds out that it is cancelled, which is in its waits and nowhere else.
-/

namespace Headroom

/-- A failure that arose because the run is cancelled, or in the wake of such a failure. -/
def Failure.IsCancellation (failure : Failure) : Prop :=
  .single .cancelled ∈ failure.chain

namespace Failure

theorem isCancellation_of_iff {cause : Cause} :
    (of cause).IsCancellation ↔ cause = .cancelled := by
  simp [IsCancellation, eq_comm]

theorem not_isCancellation_foreign (fault : Foreign) :
    ¬(foreign fault).IsCancellation := by
  simp [IsCancellation, chain]

theorem not_isCancellation_impasse (reason : Impasse) :
    ¬(impasse reason).IsCancellation := by
  simp [IsCancellation, chain]

end Failure

namespace Cluster

/-- The methods by which a check waits for something. -/
def Method.polls : Method → Bool
  | .readJobStatus | .readVolume => true
  | _ => false

namespace World

/-- A run goes on from a world, in which at most records were written and suffixes drawn since. -/
def Resumes (before after : World) : Prop :=
  ∃ records drawn, after = { before with records, drawn }

namespace Resumes

theorem refl (world : World) : Resumes world world :=
  ⟨world.records, world.drawn, rfl⟩

variable {before middle after : World}

theorem trans
    (first : Resumes before middle)
    (second : Resumes middle after) :
    Resumes before after := by
  obtain ⟨_, _, rfl⟩ := first
  obtain ⟨records, drawn, rfl⟩ := second
  exact ⟨records, drawn, rfl⟩

theorem history_eq (resumes : Resumes before after) : after.history = before.history := by
  obtain ⟨_, _, rfl⟩ := resumes
  rfl

theorem script_eq (resumes : Resumes before after) : after.script = before.script := by
  obtain ⟨_, _, rfl⟩ := resumes
  rfl

theorem isCancelled_eq (resumes : Resumes before after) :
    after.isCancelled = before.isCancelled := by
  obtain ⟨_, _, rfl⟩ := resumes
  rfl

end Resumes

/-- A call does not undo the cancellation of a run. -/
theorem isCancelled_afterCall
    {world : World}
    (timely : world.script.IsTimely)
    (cancelled : world.isCancelled = true)
    (call : Call) :
    (world.afterCall call).isCancelled = true := by
  have clock_le : world.clock ≤ (world.afterCall call).clock :=
    (Later.afterCall timely call).clock_le
  have length_eq : (world.afterCall call).history.length = world.history.length + 1 := by
    simp [afterCall]
  simp only [isCancelled, cancellation_afterCall, length_eq, Bool.or_eq_true,
    Option.any_eq_true, decide_eq_true_eq] at cancelled ⊢
  refine cancelled.imp ?_ ?_
  · rintro ⟨time, planned, reached⟩
    exact ⟨time, planned, Rat.le_trans reached clock_le⟩
  · rintro ⟨count, planned, reached⟩
    exact ⟨count, planned, by omega⟩

end World
end Cluster

namespace Probe

open Cluster Action

variable {α β : Type}

section Timelines

variable
  {call : Call}
  {meaning : Meaning α call}
  {late : Cause}
  {interval : Duration}
  {limit : Option Rat}
  {world after : World}
  {askings : List World}
  {outcome : Except Failure α}

/-- A wait that begins in a cancelled run puts no question and leaves the world as it is. -/
theorem Timeline.eq_of_isCancelled
    (timeline : Timeline call meaning late interval limit world askings outcome after)
    (cancelled : world.isCancelled = true) :
    askings = [] ∧ after = world := by
  have impossible {answered : World} {answer : Except Failure (Option α)}
      (asked : Asked call meaning world answer answered) : False := by
    rw [asked.going] at cancelled
    cases cancelled
  cases timeline with
  | cancelled isCancelled => exact ⟨rfl, rfl⟩
  | exhausted => exact ⟨rfl, rfl⟩
  | found asked => exact (impossible asked).elim
  | failed asked => exact (impossible asked).elim
  | late asked isLate => exact (impossible asked).elim
  | interrupted asked inTime ran => exact (impossible asked).elim
  | overlong asked inTime ran => exact (impossible asked).elim
  | again asked inTime ran rest => exact (impossible asked).elim

/-- A wait fails in a cancelled run in no other way than as cancelled. -/
theorem Timeline.eq_cancelled
    (timeline : Timeline call meaning late interval limit world askings outcome after)
    (unmeant : ∀ reply failure, meaning reply = .error failure → ¬failure.IsCancellation)
    (expected : late ≠ .cancelled)
    {failure : Failure}
    (ended : outcome = .error failure)
    (cancellation : failure.IsCancellation) :
    failure = .of .cancelled := by
  induction timeline with
  | cancelled isCancelled =>
      cases ended
      rfl
  | exhausted =>
      cases ended
      exact (Failure.not_isCancellation_impasse .endless cancellation).elim
  | found asked => cases ended
  | failed asked =>
      cases ended
      exact (unmeant _ _ asked.meant cancellation).elim
  | late asked isLate =>
      cases ended
      exact (expected (Failure.isCancellation_of_iff.mp cancellation)).elim
  | interrupted asked inTime ran =>
      cases ended
      rfl
  | overlong asked inTime ran =>
      cases ended
      exact (Failure.not_isCancellation_impasse .overlongPause cancellation).elim
  | again asked inTime ran rest inductionHypothesis => exact inductionHypothesis ended

end Timelines

/-- A wait until a job has succeeded or until a volume is gone, and how it went in time. -/
structure Wait where
  call : Call
  meaning : Meaning Unit call
  late : Cause
  interval : Duration
  limit : Option Rat
  begun : World
  /-- The worlds in which its questions were put. -/
  askings : List World
  outcome : Except Failure Unit
  ended : World
  timeline : Timeline call meaning late interval limit begun askings outcome ended
  polls : call.method.polls = true
  /-- No answer means that the run is cancelled. -/
  unmeant : ∀ reply failure, meaning reply = .error failure → ¬failure.IsCancellation
  expected : late ≠ .cancelled

/-- A part of a run in which time may pass. -/
inductive Leg
  | call (begun : World) (request : Call)
  | wait (waiting : Wait)

namespace Leg

/-- The world in which a leg begins. -/
def begun : Leg → World
  | .call begun _ => begun
  | .wait waiting => waiting.begun

/-- The world in which a leg ends. -/
def ended : Leg → World
  | .call begun request => begun.afterCall request
  | .wait waiting => waiting.ended

/-- The calls that are made in a leg, each with the world in which it is made. -/
def calls : Leg → List (World × Call)
  | .call begun request => [(begun, request)]
  | .wait waiting => waiting.askings.map fun asking => (asking, waiting.call)

/-- The exchanges that are made in a leg. -/
def exchanges (leg : Leg) : List Exchange :=
  leg.calls.map fun (world, request) => ⟨request, (world.respond request).outcome⟩

@[simp] theorem exchanges_call (begun : World) (request : Call) :
    (call begun request).exchanges = [⟨request, (begun.respond request).outcome⟩] := rfl

@[simp] theorem exchanges_wait (waiting : Wait) :
    (wait waiting).exchanges = exchangesIn waiting.call waiting.askings := by
  simp [exchanges, calls, exchangesIn]

theorem follows (leg : Leg) : Follows leg.begun leg.exchanges leg.ended := by
  cases leg with
  | call begun request => exact .afterCall begun request
  | wait waiting =>
      rw [exchanges_wait]
      exact waiting.timeline.follows

/-- A run that is cancelled when a leg begins is cancelled when it ends. -/
theorem isCancelled_ended
    {leg : Leg}
    (timely : leg.begun.script.IsTimely)
    (cancelled : leg.begun.isCancelled = true) :
    leg.ended.isCancelled = true := by
  cases leg with
  | call begun request => exact World.isCancelled_afterCall timely cancelled request
  | wait waiting =>
      have same : waiting.ended = waiting.begun :=
        (waiting.timeline.eq_of_isCancelled cancelled).2
      show waiting.ended.isCancelled = true
      rwa [same]

end Leg

/-- Legs that lead from one world to another. -/
inductive Leads : World → List Leg → World → Prop
  | done
      {before after : World}
      (resumes : before.Resumes after) :
      Leads before [] after
  | step
      {before after : World}
      {leg : Leg}
      {legs : List Leg}
      (resumes : before.Resumes leg.begun)
      (rest : Leads leg.ended legs after) :
      Leads before (leg :: legs) after

namespace Leads

variable {before middle after : World} {legs more : List Leg}

theorem single
    {leg : Leg}
    (begun : leg.begun = before)
    (ended : leg.ended = after) :
    Leads before [leg] after :=
  .step (begun ▸ .refl _) (.done (ended ▸ .refl _))

theorem resume
    (resumes : before.Resumes middle)
    (leads : Leads middle legs after) :
    Leads before legs after := by
  cases leads with
  | done further => exact .done (resumes.trans further)
  | step further rest => exact .step (resumes.trans further) rest

theorem append
    (first : Leads before legs middle)
    (second : Leads middle more after) :
    Leads before (legs ++ more) after := by
  induction first with
  | done resumes => exact second.resume resumes
  | step resumes rest inductionHypothesis => exact .step resumes (inductionHypothesis second)

/-- The exchanges of a run are those of its legs. -/
theorem history_eq (leads : Leads before legs after) :
    after.history = before.history ++ legs.flatMap Leg.exchanges := by
  induction leads with
  | done resumes => rw [resumes.history_eq, List.flatMap_nil, List.append_nil]
  | @step before after leg legs resumes rest inductionHypothesis =>
      rw [inductionHypothesis, leg.follows.history_eq, resumes.history_eq, List.flatMap_cons,
        List.append_assoc]

/-- In a run that is cancelled from the beginning, every leg begins cancelled. -/
theorem isCancelled_begun
    (leads : Leads before legs after)
    (timely : before.script.IsTimely)
    (cancelled : before.isCancelled = true) :
    ∀ leg ∈ legs, leg.begun.isCancelled = true := by
  induction leads with
  | done resumes => simp
  | @step before after leg legs resumes rest inductionHypothesis =>
      have stillTimely : leg.begun.script.IsTimely := by rwa [resumes.script_eq]
      have stillCancelled : leg.begun.isCancelled = true := by rwa [resumes.isCancelled_eq]
      intro other present
      rcases List.mem_cons.mp present with rfl | later
      · exact stillCancelled
      · refine inductionHypothesis ?_ (Leg.isCancelled_ended stillTimely stillCancelled) other later
        rwa [leg.follows.script_eq]

end Leads

/-- Legs account for the end of a run: what is polled is polled in a wait, and the run fails as
cancelled only if one of its waits did. -/
structure Explains
    (legs : List Leg)
    (outcome : Except Failure α) : Prop where
  once : ∀ begun call, .call begun call ∈ legs → call.method.polls = false
  cancelled :
    ∀ failure, outcome = .error failure → failure.IsCancellation →
      ∃ wait, .wait wait ∈ legs ∧ wait.outcome = .error (.of .cancelled)

/-- An action moves on in legs from a world. -/
def MovesIn (action : Action α) (world : World) : Prop :=
  ∃ legs, Leads world legs (action.run world).2 ∧ Explains legs (action.run world).1

/-- An action moves on in legs from everywhere. -/
def Moves (action : Action α) : Prop :=
  ∀ world, MovesIn action world

section Explanations

variable {legs more : List Leg} {outcome : Except Failure α}

/-- The end of the last part of a run counts. -/
theorem Explains.append
    {value : β}
    (first : Explains legs (.ok value))
    (second : Explains more outcome) :
    Explains (legs ++ more) outcome where
  once := by
    intro begun call present
    rcases List.mem_append.mp present with earlier | later
    · exact first.once begun call earlier
    · exact second.once begun call later
  cancelled := by
    intro failure ended cancellation
    obtain ⟨wait, present, was⟩ := second.cancelled failure ended cancellation
    exact ⟨wait, List.mem_append_right legs present, was⟩

/-- How legs end does not matter to somebody who takes failures as values. -/
theorem Explains.toOk
    (explains : Explains legs outcome)
    (value : β) :
    Explains legs (.ok value : Except Failure β) :=
  { once := explains.once
    cancelled := nofun }

/-- A failure goes on as it is, whatever value there would have been. -/
theorem Explains.toError
    {failure : Failure}
    (explains : Explains legs (.error failure : Except Failure α)) :
    Explains legs (.error failure : Except Failure β) :=
  { once := explains.once
    cancelled := by
      rintro other ⟨⟩ cancellation
      exact explains.cancelled failure rfl cancellation }

/-- A failure that is settled with an aftermath arose in the action or in the aftermath. -/
theorem isCancellation_of_settle
    {ending : Except Failure Unit}
    {failure : Failure}
    (settled : settle outcome ending = .error failure)
    (cancellation : failure.IsCancellation) :
    (∃ earlier, outcome = .error earlier ∧ earlier.IsCancellation) ∨
      ∃ later, ending = .error later ∧ later.IsCancellation := by
  match outcome, ending, settled with
  | .error earlier, .ok (), settled =>
      cases settled
      exact .inl ⟨_, rfl, cancellation⟩
  | .ok value, .error later, settled =>
      cases settled
      exact .inr ⟨_, rfl, cancellation⟩
  | .error earlier, .error (.check error others), settled =>
      cases settled
      rw [Failure.IsCancellation, Failure.chain_inWakeOf_check, ← List.cons_append,
        List.mem_append] at cancellation
      exact cancellation.symm.imp (fun carried => ⟨_, rfl, carried⟩) fun own => ⟨_, rfl, own⟩
  | .error earlier, .error (.foreign fault), settled =>
      cases settled
      exact (Failure.not_isCancellation_foreign fault cancellation).elim
  | .error earlier, .error (.impasse reason), settled =>
      cases settled
      exact (Failure.not_isCancellation_impasse reason cancellation).elim

/-- What an action and its aftermath went through accounts for how the two are settled. -/
theorem Explains.settle
    {ending : Except Failure Unit}
    (first : Explains legs outcome)
    (second : Explains more ending) :
    Explains (legs ++ more) (settle outcome ending) where
  once := ((first.toOk ()).append second).once
  cancelled := by
    intro failure settled cancellation
    rcases isCancellation_of_settle settled cancellation with
      ⟨earlier, ended, carried⟩ | ⟨later, ended, own⟩
    · obtain ⟨wait, present, was⟩ := first.cancelled earlier ended carried
      exact ⟨wait, List.mem_append_left more present, was⟩
    · obtain ⟨wait, present, was⟩ := second.cancelled later ended own
      exact ⟨wait, List.mem_append_right legs present, was⟩

end Explanations

section Rules

variable {world : World}

/-- A step in which no time passes is no leg. -/
theorem movesIn_of_resumes
    {action : Action α}
    (resumes : world.Resumes (action.run world).2)
    (uncancelled : ∀ failure, (action.run world).1 = .error failure → ¬failure.IsCancellation) :
    MovesIn action world :=
  ⟨[], .done resumes,
    { once := nofun
      cancelled := fun failure ended cancellation =>
        (uncancelled failure ended cancellation).elim }⟩

theorem moves_pure (value : α) : Moves (pure value) :=
  fun world => movesIn_of_resumes (.refl world) nofun

theorem moves_throw
    {failure : Failure}
    (uncancelled : ¬failure.IsCancellation) :
    Moves (throw failure : Action α) := by
  intro world
  refine movesIn_of_resumes (.refl world) ?_
  rintro other ⟨⟩
  exact uncancelled

theorem moves_foreign (fault : Foreign) : Moves (throw (.foreign fault) : Action α) :=
  moves_throw (Failure.not_isCancellation_foreign fault)

theorem moves_fail
    {cause : Cause}
    (other : cause ≠ .cancelled) :
    Moves (fail cause : Action α) :=
  moves_throw (mt Failure.isCancellation_of_iff.mp other)

theorem moves_note (severity : Severity) (message : String) : Moves (note severity message) := by
  intro world
  obtain ⟨records, ran⟩ := exists_run_note severity message world
  refine movesIn_of_resumes ?_ ?_ <;> rw [ran]
  · exact ⟨records, world.drawn, rfl⟩
  · exact nofun

theorem moves_drawSuffix : Moves drawSuffix :=
  fun world => movesIn_of_resumes ⟨world.records, world.drawn + 1, rfl⟩ nofun

/-- One action after the other moves on if both do. -/
theorem MovesIn.bind
    {action : Action α}
    {next : α → Action β}
    (first : MovesIn action world)
    (rest : ∀ value after, action.run world = (.ok value, after) → MovesIn (next value) after) :
    MovesIn (action >>= next) world := by
  obtain ⟨legs, leads, explains⟩ := first
  unfold MovesIn
  rw [run_bind]
  rcases ran : action.run world with ⟨failure | value, after⟩
  · rw [ran] at leads explains
    exact ⟨legs, leads, explains.toError⟩
  · rw [ran] at leads explains
    obtain ⟨more, further, accounts⟩ := rest value after ran
    exact ⟨legs ++ more, leads.append further, explains.append accounts⟩

theorem Moves.bind
    {action : Action α}
    {next : α → Action β}
    (first : Moves action)
    (rest : ∀ value, Moves (next value)) :
    Moves (action >>= next) :=
  fun world => (first world).bind fun value after _ => rest value after

theorem moves_fail_bind
    {cause : Cause}
    {next : β → Action α}
    (other : cause ≠ .cancelled) :
    Moves (fail cause >>= next) :=
  fun world => (moves_fail other world).bind nofun

theorem Moves.map
    {action : Action α}
    (moves : Moves action)
    (change : α → β) :
    Moves (change <$> action) :=
  moves.bind fun value => moves_pure (change value)

/-- An aftermath moves on from where its action was left. -/
theorem Moves.thenAlways
    {action : Action α}
    {aftermath : Action Unit}
    (first : Moves action)
    (cleaned : Moves aftermath) :
    Moves (thenAlways action aftermath) := by
  intro world
  obtain ⟨legs, leads, explains⟩ := first world
  obtain ⟨more, further, accounts⟩ := cleaned (action.run world).2
  exact ⟨legs ++ more, leads.append further, explains.settle accounts⟩

/-- Whoever attempts an action either goes on with what has become of it or fails as it did. -/
theorem Moves.attempt_bind
    {action : Action α}
    {next : Except Failure α → Action β}
    (first : Moves action)
    (rest : ∀ outcome,
      Moves (next outcome) ∨ ∃ failure, outcome = .error failure ∧ next outcome = throw failure) :
    Moves (attempt action >>= next) := by
  intro world
  obtain ⟨legs, leads, explains⟩ := first world
  unfold MovesIn
  rw [run_bind, run_attempt]
  dsimp only
  rcases rest (action.run world).1 with moves | ⟨failure, ended, fails⟩
  · obtain ⟨more, further, accounts⟩ := moves (action.run world).2
    exact ⟨legs ++ more, leads.append further, (explains.toOk ()).append accounts⟩
  · rw [fails, run_throw]
    rw [ended] at explains
    exact ⟨legs, leads, explains.toError⟩

/-- A call by which nobody waits is a leg. -/
theorem moves_call
    {request : Call}
    (once : request.method.polls = false) :
    Moves (call request) := by
  intro world
  refine ⟨[.call world request], .single rfl rfl, ?_⟩
  constructor
  case once =>
    intro begun other present
    cases List.mem_singleton.mp present
    exact once
  case cancelled => exact nofun

theorem moves_request
    {call : Call}
    (once : call.method.polls = false) :
    Moves (request call) := by
  refine (moves_call once).bind ?_
  rintro (value | ⟨status, reason⟩ | reason | text)
  · exact moves_pure value
  · exact moves_fail nofun
  · exact moves_fail nofun
  · exact moves_foreign _

theorem moves_requestIfFound
    {call : Call}
    (once : call.method.polls = false) :
    Moves (requestIfFound call) := by
  refine (moves_call once).bind ?_
  rintro (value | ⟨status, reason⟩ | reason | text)
  · exact moves_pure (some value)
  · dsimp only
    split
    · exact moves_pure none
    · exact moves_fail nofun
  · exact moves_fail nofun
  · exact moves_foreign _

/-- A wait is a leg. -/
theorem moves_pollFor
    {call : Call}
    {meaning : Meaning Unit call}
    {ask : Action (Option Unit)}
    {late : Cause}
    (asks : AsksOnly ask call meaning)
    (polls : call.method.polls = true)
    (unmeant : ∀ reply failure, meaning reply = .error failure → ¬failure.IsCancellation)
    (expected : late ≠ .cancelled)
    (interval timeout : Duration) :
    Moves (pollFor call ask late interval timeout) := by
  intro world
  obtain ⟨askings, timeline⟩ := timeline_pollFor asks late interval timeout world
  let wait : Wait := { timeline, polls, unmeant, expected, .. }
  refine ⟨[.wait wait], .single rfl rfl, ?_⟩
  constructor
  case once =>
    intro begun other present
    cases List.mem_singleton.mp present
  case cancelled =>
    intro failure ended cancellation
    obtain rfl := timeline.eq_cancelled unmeant expected ended cancellation
    exact ⟨wait, List.mem_singleton_self _, ended⟩

end Rules
end Probe
end Headroom
