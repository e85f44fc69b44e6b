import Headroom.Proofs.Cluster.Request
import Headroom.Probe.Poll

/-!
# Runs of a poll

A poll makes one call again and again.  What each answer means is given by a
function of its outcome: a wanted value, nothing yet, or a failure.  Every answer
before the last one means nothing yet.

The description of a poll below says which exchanges it makes and how it ends, for
every way of being cancelled, of being late and of being in an impasse.
-/

namespace Headroom
namespace Cluster
namespace Action

/-- A wait returns at once when the run is cancelled already, and otherwise it takes a pause that
somebody can be made to wait. -/
theorem run_wait (interval : Duration) (world : World) :
    (wait interval).run world =
      if world.isCancelled then (.ok true, world)
      else
        match interval.waitable? with
        | none => (.error (.impasse .overlongPause), world)
        | some amount =>
          (.ok (world.cancellation.atTime.any (· ≤ world.clock + amount)),
            world.afterWait amount) := by
  simp only [wait, run_bind, run_get]
  split
  · rfl
  · cases interval.waitable? <;> rfl

theorem follows_afterWait (world : World) (seconds : Rat) :
    Follows world [] (world.afterWait seconds) := by
  rw [World.afterWait_eq]
  exact .withClock world _

/-- A wait makes no exchange, and fails only if its pause is overlong. -/
theorem conforms_wait (interval : Duration) (world : World) :
    Conforms (wait interval) world fun trace outcome =>
      trace = [] ∧
        (outcome = .error (.impasse .overlongPause) ∨ ∃ cancelled, outcome = .ok cancelled) := by
  unfold Conforms
  rw [run_wait]
  split
  · exact ⟨[], .refl world, rfl, .inr ⟨_, rfl⟩⟩
  · cases interval.waitable? with
    | none => exact ⟨[], .refl world, rfl, .inl rfl⟩
    | some amount => exact ⟨[], follows_afterWait world amount, rfl, .inr ⟨_, rfl⟩⟩

end Action
end Cluster

namespace Probe

open Cluster Action

variable {α : Type}

/-- Everybody is patient enough for one poll. -/
theorem exists_patience_eq_succ
    (world : World)
    (call : Call)
    (interval timeout : Duration) :
    ∃ fuel, patience world call interval timeout = fuel + 1 := by
  unfold patience
  cases interval.waitable? with
  | none => exact ⟨1, rfl⟩
  | some pause => exact ⟨_, rfl⟩

/-- What the outcome of a call means to somebody who waits. -/
abbrev Meaning (α : Type) (call : Call) := Outcome call.Reply → Except Failure (Option α)

/-- Asking is making one call and reading its outcome. -/
def Asks
    (ask : Action (Option α))
    (call : Call)
    (meaning : Meaning α call) : Prop :=
  ∀ world, Conforms ask world fun trace outcome =>
    ∃ reply, trace = [⟨call, reply⟩] ∧ outcome = meaning reply

/-- The exchanges of a poll and its end. -/
inductive PollRun
    (call : Call)
    (meaning : Meaning α call)
    (late : Cause) :
    List Exchange → Except Failure α → Prop
  | cancelled : PollRun call meaning late [] (.error (.of .cancelled))
  | impasse (reason : Impasse) : PollRun call meaning late [] (.error (.impasse reason))
  | found
      {reply : Outcome call.Reply}
      {value : α}
      (wanted : meaning reply = .ok (some value)) :
      PollRun call meaning late [⟨call, reply⟩] (.ok value)
  | failed
      {reply : Outcome call.Reply}
      {failure : Failure}
      (broken : meaning reply = .error failure) :
      PollRun call meaning late [⟨call, reply⟩] (.error failure)
  | late
      {reply : Outcome call.Reply}
      (pending : meaning reply = .ok none) :
      PollRun call meaning late [⟨call, reply⟩] (.error (.of late))
  | again
      {reply : Outcome call.Reply}
      {trace : List Exchange}
      {outcome : Except Failure α}
      (pending : meaning reply = .ok none)
      (rest : PollRun call meaning late trace outcome) :
      PollRun call meaning late (⟨call, reply⟩ :: trace) outcome

section Runs

variable {call : Call} {meaning : Meaning α call} {late : Cause}

/-- The exchanges of polls with the given outcomes. -/
def polls
    (call : Call)
    (replies : List (Outcome call.Reply)) : List Exchange :=
  replies.map fun reply => ⟨call, reply⟩

/-- A poll that ends with a value got nothing before its last answer, which is that value. -/
theorem PollRun.ends_with_value
    {trace : List Exchange}
    {outcome : Except Failure α}
    (run : PollRun call meaning late trace outcome)
    {value : α}
    (ended : outcome = .ok value) :
    ∃ replies reply,
      trace = polls call replies ++ [⟨call, reply⟩] ∧
        (∀ earlier ∈ replies, meaning earlier = .ok none) ∧
        meaning reply = .ok (some value) := by
  induction run with
  | cancelled => cases ended
  | impasse => cases ended
  | found wanted =>
      cases ended
      exact ⟨[], _, rfl, by simp, wanted⟩
  | failed broken => cases ended
  | late pending => cases ended
  | again pending rest inductionHypothesis =>
      obtain ⟨replies, reply, rfl, unfinished, wanted⟩ := inductionHypothesis ended
      refine ⟨_ :: replies, reply, rfl, ?_, wanted⟩
      rintro earlier (_ | ⟨_, present⟩)
      · exact pending
      · exact unfinished earlier present

/-- Every exchange of a poll is about its call. -/
theorem PollRun.call_eq
    {trace : List Exchange}
    {outcome : Except Failure α}
    (run : PollRun call meaning late trace outcome)
    {exchange : Exchange}
    (present : exchange ∈ trace) :
    exchange.call = call := by
  induction run with
  | cancelled => cases present
  | impasse => cases present
  | found wanted => rw [List.mem_singleton.mp present]
  | failed broken => rw [List.mem_singleton.mp present]
  | late pending => rw [List.mem_singleton.mp present]
  | again pending rest inductionHypothesis =>
      rcases List.mem_cons.mp present with rfl | later
      · rfl
      · exact inductionHypothesis later

/-- A poll fails because the run is cancelled, because it is late or in an impasse, or because
one of its answers means that. -/
theorem PollRun.failure_cases
    {trace : List Exchange}
    {outcome : Except Failure α}
    (run : PollRun call meaning late trace outcome)
    {failure : Failure}
    (ended : outcome = .error failure) :
    failure = .of .cancelled ∨ (∃ reason, failure = .impasse reason) ∨ failure = .of late ∨
      ∃ reply, ⟨call, reply⟩ ∈ trace ∧ meaning reply = .error failure := by
  induction run with
  | cancelled =>
      cases ended
      exact .inl rfl
  | impasse reason =>
      cases ended
      exact .inr (.inl ⟨reason, rfl⟩)
  | found wanted => cases ended
  | failed broken =>
      cases ended
      exact .inr (.inr (.inr ⟨_, List.mem_singleton_self _, broken⟩))
  | late pending =>
      cases ended
      exact .inr (.inr (.inl rfl))
  | again pending rest inductionHypothesis =>
      refine (inductionHypothesis ended).imp_right (.imp_right (.imp_right ?_))
      rintro ⟨reply, present, broken⟩
      exact ⟨reply, List.mem_cons_of_mem _ present, broken⟩

/-- A poll has original failures if its answers have. -/
theorem PollRun.isOriginal
    {trace : List Exchange}
    {outcome : Except Failure α}
    (run : PollRun call meaning late trace outcome)
    (original : ∀ reply failure, meaning reply = .error failure → failure.IsOriginal)
    {failure : Failure}
    (ended : outcome = .error failure) :
    failure.IsOriginal := by
  rcases run.failure_cases ended with rfl | ⟨reason, rfl⟩ | rfl | ⟨reply, -, broken⟩
  · rfl
  · trivial
  · rfl
  · exact original reply failure broken

variable {ask : Action (Option α)} {interval : Duration} {limit : Option Rat}

/-- Whoever asks by a call runs as a poll by that call. -/
theorem conforms_poll
    (asks : Asks ask call meaning)
    (fuel : Nat)
    (world : World) :
    Conforms (poll ask late interval limit fuel) world (PollRun call meaning late) := by
  induction fuel generalizing world with
  | zero => exact conforms_throw (.impasse .endless)
  | succ fuel inductionHypothesis =>
      unfold poll
      refine conforms_observe_bind ?_
      split
      · exact conforms_fail_bind .cancelled
      refine (asks world).bind ?_ ?_
      · rintro trace failure ⟨reply, rfl, broken⟩
        exact .failed broken.symm
      rintro trace answer after - ⟨reply, rfl, answered⟩
      cases answer with
      | some value => exact conforms_pure (.found answered.symm)
      | none =>
          refine conforms_observe_bind ?_
          split
          · exact conforms_fail_bind (.late answered.symm)
          refine (conforms_wait interval after).bind ?_ ?_
          · rintro trace failure ⟨rfl, ended⟩
            rcases ended with ended | ⟨_, ended⟩ <;> cases ended
            exact .again answered.symm (.impasse .overlongPause)
          · rintro trace cancelled later - ⟨rfl, -⟩
            split
            · exact conforms_fail_bind (.again answered.symm .cancelled)
            · exact (inductionHypothesis later).mono
                fun more outcome rest => .again answered.symm rest

/-- The whole of a wait is a poll. -/
theorem conforms_pollFor
    (asks : Asks ask call meaning)
    (timeout : Duration)
    (world : World) :
    Conforms (pollFor call ask late interval timeout) world (PollRun call meaning late) :=
  conforms_get_bind (conforms_poll asks _ world)

end Runs
end Probe
end Headroom
