import Headroom.Proofs.Probe.Measurement
import Headroom.Proofs.Probe.Termination

/-!
# Waits in time

Somebody who waits asks at once, and again after every pause.  The description of a
wait below gives the world in which each question is put, with all that decides how
the wait goes on: whether the run is cancelled, what the answer means, whether the
limit has passed when it comes, and how the pause ends.

That a wait goes so is proved once.  What a wait does in time follows from the
description, for the wait for a job and for the wait until a volume is gone alike.
-/

namespace Headroom
namespace Cluster
namespace Action

variable {α β : Type} {world after : World} {interval : Duration}

/-- The run is cancelled when a wait returns that it is. -/
theorem isCancelled_of_wait
    (ran : (wait interval).run world = (.ok true, after)) :
    after.isCancelled = true := by
  rw [run_wait] at ran
  split at ran
  · rename_i already
    cases ran
    exact already
  split at ran
  · cases ran
  · rename_i amount found
    rw [Prod.mk.injEq, Except.ok.injEq] at ran
    obtain ⟨ended, rfl⟩ := ran
    cases planned : world.cancellation.atTime with
    | none => simp [planned] at ended
    | some time =>
        have passed : time ≤ world.clock + amount := by simpa [planned] using ended
        simp [World.isCancelled, World.afterWait, planned, passed]

/-- A wait fails only if its pause is overlong. -/
theorem eq_overlongPause_of_wait
    {failure : Failure}
    (ran : (wait interval).run world = (.error failure, after)) :
    failure = .impasse .overlongPause := by
  obtain ⟨trace, -, -, ended⟩ := conforms_wait interval world
  rw [ran] at ended
  rcases ended with overlong | ⟨cancelled, impossible⟩
  · cases overlong
    rfl
  · cases impossible

/-- A note is a record and nothing else. -/
theorem exists_run_note
    (severity : Severity)
    (message : String)
    (world : World) :
    ∃ records, (note severity message).run world = (.ok (), { world with records }) :=
  ⟨_, rfl⟩

/-- A wait makes no call. -/
theorem follows_wait (interval : Duration) (world : World) :
    Follows world [] ((wait interval).run world).2 := by
  obtain ⟨trace, follows, rfl, -⟩ := conforms_wait interval world
  exact follows

/-- An action fails as cancelled only in a run that is cancelled. -/
def HeedsCancellation (action : Action α) : Prop :=
  ∀ world, (action.run world).1 = .error (.of .cancelled) →
    (action.run world).2.isCancelled = true

section Cancellation

theorem HeedsCancellation.bind
    {action : Action α}
    {next : α → Action β}
    (first : HeedsCancellation action)
    (rest : ∀ value, HeedsCancellation (next value)) :
    HeedsCancellation (action >>= next) := by
  intro world ended
  rw [run_bind] at ended ⊢
  rcases ran : action.run world with ⟨failure | value, after⟩
  · rw [ran] at ended
    have heeds := first world
    rw [ran] at heeds
    cases ended
    exact heeds rfl
  · rw [ran] at ended
    exact rest value after ended

theorem heedsCancellation_note (severity : Severity) (message : String) :
    HeedsCancellation (note severity message) :=
  fun _ ended => by cases ended

theorem heedsCancellation_pure (value : α) : HeedsCancellation (pure value) :=
  fun _ ended => by cases ended

/-- No request fails as cancelled. -/
theorem heedsCancellation_request (call : Call) : HeedsCancellation (request call) := by
  intro world ended
  rw [run_request] at ended
  rcases requested_error_cases ended with ⟨reason, other⟩ | ⟨text, other⟩ <;> cases other

theorem heedsCancellation_requestIfFound (call : Call) :
    HeedsCancellation (requestIfFound call) := by
  intro world ended
  rw [run_requestIfFound] at ended
  rcases requestedIfFound_error_cases ended with ⟨reason, other⟩ | ⟨text, other⟩ <;> cases other

end Cancellation
end Action
end Cluster

namespace Probe

open Cluster Action

variable {α : Type}

/-- Asking is making one call and reading its outcome, and at most a record is written after it. -/
def AsksOnly
    (ask : Action (Option α))
    (call : Call)
    (meaning : Meaning α call) : Prop :=
  ∀ world, ∃ records,
    ask.run world =
      (meaning (world.respond call).outcome, { world.afterCall call with records })

theorem asksOnly_askGone (volume : String) :
    AsksOnly (Reclaimer.askGone volume) (.readVolume volume) (absence volume) := by
  intro world
  unfold Reclaimer.askGone absence
  rw [run_bind, run_requestIfFound]
  cases requestedIfFound (.readVolume volume) (world.respond (.readVolume volume)).outcome with
  | error failure => exact ⟨_, rfl⟩
  | ok found =>
      cases found with
      | some present => exact ⟨_, rfl⟩
      | none => exact ⟨_, rfl⟩

theorem asksOnly_askSucceeded (checker : Checker) (job : String) :
    AsksOnly (checker.askSucceeded job) (.readJobStatus checker.namespaceName job)
      (success checker.namespaceName job) := by
  intro world
  unfold Checker.askSucceeded success
  rw [run_bind, run_request]
  cases requested (.readJobStatus checker.namespaceName job)
      (world.respond (.readJobStatus checker.namespaceName job)).outcome with
  | error failure => exact ⟨_, rfl⟩
  | ok status =>
      cases status with
      | none => exact ⟨_, rfl⟩
      | some counts =>
          dsimp only
          split
          · exact ⟨_, rfl⟩
          · split
            · exact ⟨_, rfl⟩
            · exact ⟨_, rfl⟩

/-- A question that is put while the run is not cancelled, what its answer means, and the world in
which the answer has come. -/
structure Asked
    (call : Call)
    (meaning : Meaning α call)
    (asking : World)
    (answer : Except Failure (Option α))
    (answered : World) : Prop where
  going : asking.isCancelled = false
  meant : meaning (asking.respond call).outcome = answer
  answered_eq : ∃ records, answered = { asking.afterCall call with records }

/-- The exchanges by which one call is made in each of several worlds. -/
def exchangesIn
    (call : Call)
    (askings : List World) : List Exchange :=
  askings.map fun asking => ⟨call, (asking.respond call).outcome⟩

section Asked

variable
  {call : Call}
  {meaning : Meaning α call}
  {asking answered : World}
  {answer : Except Failure (Option α)}

theorem Asked.clock_eq (asked : Asked call meaning asking answer answered) :
    answered.clock = asking.clock + (asking.respond call).delay := by
  obtain ⟨records, rfl⟩ := asked.answered_eq
  rfl

/-- A question is one exchange. -/
theorem Asked.follows (asked : Asked call meaning asking answer answered) :
    Follows asking (exchangesIn call [asking]) answered := by
  obtain ⟨records, rfl⟩ := asked.answered_eq
  exact { Follows.afterCall asking call with }

end Asked

/-- How a wait goes in time: the worlds in which its questions are put, its end, and the world in
which it ends. -/
inductive Timeline
    (call : Call)
    (meaning : Meaning α call)
    (late : Cause)
    (interval : Duration)
    (limit : Option Rat) :
    World → List World → Except Failure α → World → Prop
  | cancelled
      {world : World}
      (isCancelled : world.isCancelled = true) :
      Timeline call meaning late interval limit world [] (.error (.of .cancelled)) world
  | exhausted
      {world : World} :
      Timeline call meaning late interval limit world [] (.error (.impasse .endless)) world
  | found
      {asking answered : World}
      {value : α}
      (asked : Asked call meaning asking (.ok (some value)) answered) :
      Timeline call meaning late interval limit asking [asking] (.ok value) answered
  | failed
      {asking answered : World}
      {failure : Failure}
      (asked : Asked call meaning asking (.error failure) answered) :
      Timeline call meaning late interval limit asking [asking] (.error failure) answered
  | late
      {asking answered : World}
      (asked : Asked call meaning asking (.ok none) answered)
      (isLate : limit.any (· ≤ answered.reading) = true) :
      Timeline call meaning late interval limit asking [asking] (.error (.of late)) answered
  | interrupted
      {asking answered after : World}
      (asked : Asked call meaning asking (.ok none) answered)
      (inTime : limit.any (· ≤ answered.reading) = false)
      (ran : (wait interval).run answered = (.ok true, after)) :
      Timeline call meaning late interval limit asking [asking] (.error (.of .cancelled)) after
  | overlong
      {asking answered after : World}
      (asked : Asked call meaning asking (.ok none) answered)
      (inTime : limit.any (· ≤ answered.reading) = false)
      (ran : (wait interval).run answered = (.error (.impasse .overlongPause), after)) :
      Timeline call meaning late interval limit asking [asking]
        (.error (.impasse .overlongPause)) after
  | again
      {asking answered rested after : World}
      {askings : List World}
      {outcome : Except Failure α}
      (asked : Asked call meaning asking (.ok none) answered)
      (inTime : limit.any (· ≤ answered.reading) = false)
      (ran : (wait interval).run answered = (.ok false, rested))
      (rest : Timeline call meaning late interval limit rested askings outcome after) :
      Timeline call meaning late interval limit asking (asking :: askings) outcome after

section Timelines

variable
  {call : Call}
  {meaning : Meaning α call}
  {late : Cause}
  {interval : Duration}
  {limit : Option Rat}

/-- Whoever asks by a call waits as a timeline says. -/
theorem timeline_poll
    {ask : Action (Option α)}
    (asks : AsksOnly ask call meaning)
    (fuel : Nat)
    (world : World) :
    ∃ askings,
      Timeline call meaning late interval limit world askings
        ((poll ask late interval limit fuel).run world).1
        ((poll ask late interval limit fuel).run world).2 := by
  induction fuel generalizing world with
  | zero => exact ⟨[], .exhausted⟩
  | succ fuel inductionHypothesis =>
      unfold poll
      rw [run_bind, run_observe]
      dsimp only
      split
      · rename_i isCancelled
        exact ⟨[], .cancelled isCancelled⟩
      rename_i notCancelled
      have going : world.isCancelled = false := Bool.not_eq_true _ ▸ notCancelled
      obtain ⟨records, ran⟩ := asks world
      rw [run_bind, ran]
      have asked : Asked call meaning world (meaning (world.respond call).outcome)
          { world.afterCall call with records } := ⟨going, rfl, records, rfl⟩
      generalize meaning (world.respond call).outcome = answer at asked
      generalize { world.afterCall call with records } = answered at asked
      rcases answer with failure | pending | value
      · exact ⟨_, .failed asked⟩
      · dsimp only
        rw [run_bind, run_observe]
        dsimp only
        split
        · rename_i isLate
          exact ⟨_, .late asked isLate⟩
        rename_i notLate
        have inTime : limit.any (· ≤ answered.reading) = false := Bool.not_eq_true _ ▸ notLate
        rw [run_bind]
        rcases waited : (wait interval).run answered with ⟨failure | cancelled, rested⟩
        · obtain rfl := eq_overlongPause_of_wait waited
          exact ⟨_, .overlong asked inTime waited⟩
        · cases cancelled with
          | true => exact ⟨_, .interrupted asked inTime waited⟩
          | false =>
              obtain ⟨askings, rest⟩ := inductionHypothesis rested
              exact ⟨_, .again asked inTime waited rest⟩
      · exact ⟨_, .found asked⟩

/-- The whole of a wait goes in time from where it begins. -/
theorem timeline_pollFor
    {ask : Action (Option α)}
    (asks : AsksOnly ask call meaning)
    (late : Cause)
    (interval timeout : Duration)
    (world : World) :
    ∃ askings,
      Timeline call meaning late interval (deadline world.reading timeout) world askings
        ((pollFor call ask late interval timeout).run world).1
        ((pollFor call ask late interval timeout).run world).2 := by
  unfold pollFor
  rw [run_bind, run_get]
  exact timeline_poll asks _ world

variable {world after : World} {askings : List World} {outcome : Except Failure α}

/-- The exchanges of a wait are its questions. -/
theorem Timeline.follows
    (timeline : Timeline call meaning late interval limit world askings outcome after) :
    Follows world (exchangesIn call askings) after := by
  have rested {answered rested : World} {cancelled : Except Failure Bool}
      (ran : (wait interval).run answered = (cancelled, rested)) :
      Follows answered [] rested := by
    have waited := follows_wait interval answered
    rwa [ran] at waited
  induction timeline with
  | cancelled isCancelled => exact .refl _
  | exhausted => exact .refl _
  | found asked => exact asked.follows
  | failed asked => exact asked.follows
  | late asked isLate => exact asked.follows
  | interrupted asked inTime ran => exact asked.follows.trans (rested ran)
  | overlong asked inTime ran => exact asked.follows.trans (rested ran)
  | again asked inTime ran rest inductionHypothesis =>
      exact (asked.follows.trans (rested ran)).trans inductionHypothesis

/-- A wait fails as cancelled only in a run that is cancelled, if no answer means that. -/
theorem Timeline.isCancelled
    (timeline : Timeline call meaning late interval limit world askings outcome after)
    (unmeant : ∀ reply, meaning reply ≠ .error (.of .cancelled))
    (expected : late ≠ .cancelled)
    (ended : outcome = .error (.of .cancelled)) :
    after.isCancelled = true := by
  induction timeline with
  | cancelled isCancelled => exact isCancelled
  | exhausted => cases ended
  | found asked => cases ended
  | failed asked =>
      cases ended
      exact (unmeant _ asked.meant).elim
  | late asked isLate =>
      cases ended
      exact (expected rfl).elim
  | interrupted asked inTime ran => exact isCancelled_of_wait ran
  | overlong asked inTime ran => cases ended
  | again asked inTime ran rest inductionHypothesis => exact inductionHypothesis ended

/-- Whoever polls fails as cancelled only in a run that is cancelled. -/
theorem heedsCancellation_pollFor
    {ask : Action (Option α)}
    (asks : AsksOnly ask call meaning)
    (unmeant : ∀ reply, meaning reply ≠ .error (.of .cancelled))
    (expected : late ≠ .cancelled)
    (timeout : Duration) :
    HeedsCancellation (pollFor call ask late interval timeout) := by
  intro world ended
  obtain ⟨askings, timeline⟩ :=
    timeline_pollFor asks late interval timeout world
  exact timeline.isCancelled unmeant expected ended

end Timelines

/-- A claim is given up as cancelled only in a run that is cancelled. -/
theorem heedsCancellation_deleteClaim
    (reclaimer : Reclaimer)
    (claim : Reference) :
    HeedsCancellation (reclaimer.deleteClaim claim) := by
  unfold Reclaimer.deleteClaim findVolume
  refine ((heedsCancellation_request .listVolumes).bind fun volumes =>
    heedsCancellation_pure _).bind fun volume => ?_
  refine (heedsCancellation_note _ _).bind fun _ => ?_
  refine HeedsCancellation.bind ?_ fun _ => ?_
  · exact (heedsCancellation_requestIfFound (.deleteClaim claim)).bind fun _ =>
      heedsCancellation_pure _
  · cases volume with
    | none => exact heedsCancellation_note _ _
    | some volume =>
        refine (heedsCancellation_note _ _).bind fun _ => ?_
        refine heedsCancellation_pollFor (asksOnly_askGone volume.name) ?_ (by nofun) _
        intro reply meant
        rcases absence_error_cases meant with ⟨reason, other⟩ | ⟨text, other⟩ <;> cases other

end Probe
end Headroom
