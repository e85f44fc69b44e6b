import Headroom.Proofs.Probe.Protocol
import Headroom.Proofs.Probe.Timeline

/-!
# Waits are punctual

A wait with a pause between its questions and with a finite timeout asks at most once
at the beginning and once for each pause that begins before a time at which the clock
shows the deadline.  It is given up only right after a question that was answered when
the clock showed the deadline or later, and that did not get the wanted answer.

So a wanted answer to any question that is put is never reported as a timeout, and
without delays a timeout is reported less than one pause after such a time.

The deadline itself is such a time.  It is the sum of what the clock showed and of the
timeout, rounded to a binary number, and so it may come a little before or after the
exact sum: a wait may be given up too early by as much as was rounded away.
-/

namespace Headroom
namespace Probe

open Cluster Action

variable {α : Type}

section Timelines

variable
  {call : Call}
  {meaning : Meaning α call}
  {late : Cause}
  {pause bound due : Rat}
  {world after : World}
  {askings : List World}
  {outcome : Except Failure α}

/-- A question that is answered in time is answered before the clock shows the deadline. -/
theorem clock_lt_of_inTime
    {answered : World}
    (inTime : (some bound).any (· ≤ answered.reading) = false)
    (due_le : bound ≤ Binary64.nearest due) :
    answered.clock < due :=
  World.clock_lt_of_reading_lt (Rat.not_le.mp (by simpa using inTime)) due_le

/-- A wait of some seconds that is not cancelled takes all of them. -/
theorem clock_of_wait_seconds
    {rested : World}
    (ran : (wait (.seconds pause)).run world = (.ok false, rested)) :
    rested.clock = world.clock + pause := by
  obtain ⟨amount, found, clock_eq⟩ := clock_of_wait ran
  obtain ⟨⟨⟩, -⟩ := Duration.waitable?_eq_some_iff.mp found
  exact clock_eq

/-- If there are further questions after the first two, so many pauses fit before every time at
which the clock shows the deadline. -/
theorem Timeline.clock_add_lt
    (timeline :
      Timeline call meaning late (.seconds pause) (some bound) world askings outcome after)
    (due_le : bound ≤ Binary64.nearest due)
    (timely : world.script.IsTimely)
    {pauses : Nat}
    (counted : askings.length = pauses + 2) :
    world.clock + pauses * pause < due := by
  induction timeline generalizing pauses with
  | @again asking answered rested after askings outcome asked inTime ran rest
      inductionHypothesis =>
      have answered_lt := clock_lt_of_inTime inTime due_le
      have asking_le : asking.clock ≤ answered.clock := by
        have delayed : 0 ≤ (asking.respond call).delay := timely.delay_nonneg asking.calls
        rw [asked.clock_eq]
        linarith
      have stillTimely : rested.script.IsTimely := by
        have follows := follows_wait (.seconds pause) answered
        rw [ran] at follows
        rwa [follows.script_eq, asked.follows.script_eq]
      cases pauses with
      | zero =>
          rw [Nat.cast_zero, zero_mul]
          linarith
      | succ fewer =>
          have later := inductionHypothesis stillTimely (Nat.succ.inj counted)
          rw [clock_of_wait_seconds ran] at later
          rw [Nat.cast_succ, add_one_mul]
          linarith
  | _ => cases counted

/-- There are at most as many questions as pauses may begin before the clock shows the deadline,
and one more. -/
theorem Timeline.length_le
    (timeline :
      Timeline call meaning late (.seconds pause) (some bound) world askings outcome after)
    (due_le : bound ≤ Binary64.nearest due)
    (timely : world.script.IsTimely)
    (forwards : 0 < pause) :
    (askings.length : Int) ≤ max 0 ((due - world.clock) / pause).ceil + 1 := by
  have steps :
      stepsWithin (due - world.clock) pause = ((due - world.clock) / pause).ceil.toNat :=
    if_pos forwards
  match counted : askings.length with
  | 0 => omega
  | 1 => omega
  | pauses + 2 =>
      have reached := timeline.clock_add_lt due_le timely counted
      have fits : pauses * pause < stepsWithin (due - world.clock) pause * pause := by
        have enough : due - world.clock ≤ stepsWithin (due - world.clock) pause * pause :=
          le_stepsWithin_mul forwards
        linarith
      have fewer : (pauses : Rat) < (stepsWithin (due - world.clock) pause : Nat) :=
        Rat.lt_of_mul_lt_mul_right fits (Rat.le_of_lt forwards)
      have lt := Rat.natCast_lt_natCast.mp fewer
      omega

/-- A wait that is given up was given up right after its last question, which was still not
answered as wanted and not answered before the clock showed the deadline. -/
theorem Timeline.last_of_late
    (timeline :
      Timeline call meaning late (.seconds pause) (some bound) world askings outcome after)
    (unmeant : ∀ reply, meaning reply ≠ .error (.of late))
    (expected : late ≠ .cancelled)
    (ended : outcome = .error (.of late)) :
    ∃ earlier asking,
      askings = earlier ++ [asking] ∧
        Follows world (exchangesIn call earlier) asking ∧
        Asked call meaning asking (.ok none) after ∧
        bound ≤ after.reading := by
  induction timeline with
  | cancelled isCancelled =>
      cases ended
      exact (expected rfl).elim
  | exhausted => cases ended
  | found asked => cases ended
  | failed asked =>
      cases ended
      exact (unmeant _ asked.meant).elim
  | @late asking answered asked isLate =>
      exact ⟨[], asking, rfl, .refl asking, asked, by simpa using isLate⟩
  | interrupted asked inTime ran =>
      cases ended
      exact (expected rfl).elim
  | overlong asked inTime ran => cases ended
  | @again asking answered rested after askings outcome asked inTime ran rest
      inductionHypothesis =>
      obtain ⟨earlier, last, rfl, follows, stillAsked, isLate⟩ := inductionHypothesis ended
      have paused := follows_wait (.seconds pause) answered
      rw [ran] at paused
      exact ⟨asking :: earlier, last, rfl, (asked.follows.trans paused).trans follows,
        stillAsked, isLate⟩

/-- Without delays a wait is given up less than a pause after it begins or after the clock shows
the deadline. -/
theorem Timeline.clock_lt_of_immediate
    {latest : Rat}
    (timeline :
      Timeline call meaning late (.seconds pause) (some bound) world askings outcome after)
    (due_le : bound ≤ Binary64.nearest due)
    (immediate : ∀ earlier, (world.script.respond earlier call).delay = 0)
    (unmeant : ∀ reply, meaning reply ≠ .error (.of late))
    (expected : late ≠ .cancelled)
    (ended : outcome = .error (.of late))
    (latest_le : due + pause ≤ latest)
    (early : world.clock < latest) :
    after.clock < latest := by
  have clock_eq {asking answered : World} {answer : Except Failure (Option α)}
      (immediately : ∀ earlier, (asking.script.respond earlier call).delay = 0)
      (asked : Asked call meaning asking answer answered) :
      answered.clock = asking.clock := by
    have undelayed : (asking.respond call).delay = 0 := immediately asking.calls
    rw [asked.clock_eq, undelayed, add_zero]
  induction timeline with
  | cancelled isCancelled =>
      cases ended
      exact (expected rfl).elim
  | exhausted => cases ended
  | found asked => cases ended
  | failed asked =>
      cases ended
      exact (unmeant _ asked.meant).elim
  | late asked isLate => rwa [clock_eq immediate asked]
  | interrupted asked inTime ran =>
      cases ended
      exact (expected rfl).elim
  | overlong asked inTime ran => cases ended
  | @again asking answered rested after askings outcome asked inTime ran rest
      inductionHypothesis =>
      have paused := follows_wait (.seconds pause) answered
      rw [ran] at paused
      have script_eq : rested.script = asking.script :=
        paused.script_eq.trans asked.follows.script_eq
      have before := clock_lt_of_inTime inTime due_le
      have rested_clock := clock_of_wait_seconds ran
      exact inductionHypothesis (by rwa [script_eq]) ended (by linarith)

/-- A wanted answer to any question is the end of the wait. -/
theorem Timeline.ended_of_wanted
    {interval : Duration}
    {limit : Option Rat}
    (timeline : Timeline call meaning late interval limit world askings outcome after)
    {asking : World}
    (put : asking ∈ askings)
    {value : α}
    (wanted : meaning (asking.respond call).outcome = .ok (some value)) :
    outcome = .ok value := by
  -- A question with another answer is not the one that got the wanted answer.
  have other {asker answered : World} {answer : Except Failure (Option α)}
      (asked : Asked call meaning asker answer answered)
      (same : asking = asker) :
      answer = .ok (some value) := by
    rw [← asked.meant, ← same, wanted]
  induction timeline with
  | cancelled isCancelled => cases put
  | exhausted => cases put
  | found asked =>
      cases other asked (List.mem_singleton.mp put)
      rfl
  | failed asked => cases other asked (List.mem_singleton.mp put)
  | late asked isLate => cases other asked (List.mem_singleton.mp put)
  | interrupted asked inTime ran => cases other asked (List.mem_singleton.mp put)
  | overlong asked inTime ran => cases other asked (List.mem_singleton.mp put)
  | again asked inTime ran rest inductionHypothesis =>
      rcases List.mem_cons.mp put with same | later
      · cases other asked same
      · exact inductionHypothesis later

end Timelines

/-- How an action goes in time whose exchanges by a call are a wait with a deadline, from the world
in which it begins: its exchanges, its end and the world that it leaves. -/
structure IsPunctual
    {call : Call}
    (meaning : Meaning Unit call)
    (late : Cause)
    (pause bound : Rat)
    (world : World)
    (trace : List Exchange)
    (outcome : Except Failure α)
    (after : World) : Prop where
  /-- It comes to an end. -/
  ends : outcome ≠ .error (.impasse .endless)
  /-- The call is made at most once for each pause that begins before a time at which the clock
  shows the deadline, and once more. -/
  calls_le :
    ∀ due, bound ≤ Binary64.nearest due →
      (trace.countP (·.call = call) : Int) ≤ max 0 ((due - world.clock) / pause).ceil + 1
  /-- A timeout is reported right after a call that did not get the wanted answer yet, and not
  before the clock shows the deadline. -/
  late_after :
    outcome = .error (.of late) →
      ∃ earlier asking,
        trace = exchangesIn call earlier ++ exchangesIn call [asking] ∧
          asking.history = world.history ++ exchangesIn call earlier ∧
          Asked call meaning asking (.ok none) after ∧
          bound ≤ after.reading
  /-- Without delays a timeout is reported less than a pause after the beginning or after a time at
  which the clock shows the deadline. -/
  late_soon :
    outcome = .error (.of late) →
      (∀ earlier, (world.script.respond earlier call).delay = 0) →
        ∀ due, bound ≤ Binary64.nearest due → after.clock < max world.clock due + pause
  /-- Where a call got the wanted answer, no timeout is reported. -/
  wanted_in_time :
    ∀ reply, ⟨call, reply⟩ ∈ trace → meaning reply = .ok (some ()) →
      outcome ≠ .error (.of late)

section Waits

variable
  {call : Call}
  {meaning : Meaning Unit call}
  {late : Cause}
  {pause bound limit : Rat}
  {world after : World}
  {trace : List Exchange}

/-- How a wait fails does not depend on what it would have found. -/
theorem IsPunctual.of_error
    {β : Type}
    {failure : Failure}
    (punctual :
      IsPunctual meaning late pause bound world trace (.error failure : Except Failure β) after) :
    IsPunctual meaning late pause bound world trace (.error failure : Except Failure α) after := by
  have same {other : Failure}
      (ended : (.error failure : Except Failure α) = .error other) :
      (.error failure : Except Failure β) = .error other := by
    cases ended
    rfl
  exact
    { ends := fun ended => punctual.ends (same ended)
      calls_le := punctual.calls_le
      late_after := fun ended => punctual.late_after (same ended)
      late_soon := fun ended => punctual.late_soon (same ended)
      wanted_in_time := fun reply made wanted ended =>
        punctual.wanted_in_time reply made wanted (same ended) }

/-- An exchange by another call may come after a wait that went well. -/
theorem IsPunctual.snoc
    {last : Exchange}
    {outcome : Except Failure α}
    {later : World}
    (punctual : IsPunctual meaning late pause bound world trace (.ok ()) after)
    (other : last.call ≠ call)
    (finite : outcome ≠ .error (.impasse .endless))
    (inTime : outcome ≠ .error (.of late)) :
    IsPunctual meaning late pause bound world (trace ++ [last]) outcome later where
  ends := finite
  calls_le := by
    have uncounted : [last].countP (·.call = call) = 0 := by simp [other]
    rw [List.countP_append, uncounted]
    exact punctual.calls_le
  late_after := fun ended => (inTime ended).elim
  late_soon := fun ended => (inTime ended).elim
  wanted_in_time := fun _ _ _ => inTime

/-- The exchanges by a call count as often as it was made. -/
theorem countP_exchangesIn (call : Call) (askings : List World) :
    (exchangesIn call askings).countP (·.call = call) = askings.length := by
  have all : ∀ exchange ∈ exchangesIn call askings, decide (exchange.call = call) = true := by
    intro exchange made
    obtain ⟨asking, -, rfl⟩ := List.mem_map.mp made
    exact decide_eq_true rfl
  rw [List.countP_eq_length.mpr all, exchangesIn, List.length_map]

/-- A wait by a call is punctual if its pauses and its timeout are finite. -/
theorem isPunctual_pollFor
    {ask : Action (Option Unit)}
    (asks : AsksOnly ask call meaning)
    (finite : Avoids .endless ask)
    (timely : world.script.IsTimely)
    (forwards : 0 < pause)
    (unmeant : ∀ reply, meaning reply ≠ .error (.of late))
    (expected : late ≠ .cancelled)
    (bound_eq : deadline world.reading (.seconds limit) = some bound) :
    let ran := (pollFor call ask late (.seconds pause) (.seconds limit)).run world
    ∃ askings,
      Follows world (exchangesIn call askings) ran.2 ∧
        IsPunctual meaning late pause bound world (exchangesIn call askings) ran.1 ran.2 := by
  obtain ⟨askings, timeline⟩ :=
    timeline_pollFor asks late (.seconds pause) (.seconds limit) world
  rw [bound_eq] at timeline
  have bounded : IsBounded (.seconds pause) (.seconds limit) :=
    ⟨⟨pause, rfl, forwards⟩, limit, rfl⟩
  have ruledOut : RulesOut .endless (.seconds pause) (.seconds limit) := bounded
  refine ⟨askings, timeline.follows, ?_⟩
  constructor
  case ends => exact (avoids_pollFor finite ruledOut call world timely).1
  case calls_le =>
    intro due due_le
    rw [countP_exchangesIn]
    exact timeline.length_le due_le timely forwards
  case late_after =>
    intro ended
    obtain ⟨earlier, asking, rfl, follows, asked, isLate⟩ :=
      timeline.last_of_late unmeant expected ended
    exact ⟨earlier, asking, by simp [exchangesIn], follows.history_eq, asked, isLate⟩
  case late_soon =>
    intro ended immediate due due_le
    have begun_le := le_max_left world.clock due
    have due_le_max := le_max_right world.clock due
    exact timeline.clock_lt_of_immediate due_le immediate unmeant expected ended (by linarith)
      (by linarith)
  case wanted_in_time =>
    intro reply made wanted ended
    obtain ⟨asking, put, same⟩ := List.mem_map.mp made
    cases same
    rw [timeline.ended_of_wanted put wanted] at ended
    cases ended

end Waits

/-- An action goes in time as a wait by a call whose answers have a meaning. -/
def WaitsPunctually
    {call : Call}
    (action : Action α)
    (meaning : Meaning Unit call)
    (late : Cause)
    (pause bound : Rat)
    (world : World) : Prop :=
  ∃ trace,
    (action.run world).2.history = world.history ++ trace ∧
      IsPunctual meaning late pause bound world trace (action.run world).1 (action.run world).2

section Actions

variable {pause bound limit : Rat} {world : World}

/-- The name of the first pod of a job. -/
def firstPod (namespaceName job : String) : Action (Option String) := do
  match ← request (.listPods namespaceName job) with
  | [] => fail (.podMissing job)
  | pod :: _ => return pod

/-- Waiting for a job is polling its status, and then asking for its first pod. -/
theorem waitJob_eq (checker : Checker) (job : String) :
    checker.waitJob job = (do
      pollFor (.readJobStatus checker.namespaceName job) (checker.askSucceeded job)
        (.jobTimeout job) checker.pollInterval checker.jobTimeout
      firstPod checker.namespaceName job) := by
  unfold Checker.waitJob firstPod
  refine bind_congr fun _ => bind_congr fun pods => ?_
  cases pods <;> rfl

/-- The pods of a job are listed once, and that is never too late. -/
theorem conforms_firstPod
    (namespaceName job : String)
    (world : World) :
    Conforms (firstPod namespaceName job) world fun trace outcome =>
      ∃ reply, trace = [⟨.listPods namespaceName job, reply⟩] ∧
        outcome ≠ .error (.impasse .endless) ∧ outcome ≠ .error (.of (.jobTimeout job)) := by
  refine conforms_request_bind ?_ ?_
  · intro reply failure failed
    rcases requested_error_cases failed with ⟨reason, rfl⟩ | ⟨text, rfl⟩ <;>
      exact ⟨reply, rfl, nofun, nofun⟩
  · rintro (_ | ⟨pod, others⟩)
    · exact conforms_fail ⟨_, rfl, nofun, nofun⟩
    · exact conforms_pure ⟨_, rfl, nofun, nofun⟩

/-- The wait for a job is punctual. -/
theorem waitsPunctually_waitJob
    {checker : Checker}
    (timely : world.script.IsTimely)
    (forwards : 0 < pause)
    (interval_eq : checker.pollInterval = .seconds pause)
    (timeout_eq : checker.jobTimeout = .seconds limit)
    (bound_eq : deadline world.reading (.seconds limit) = some bound)
    (job : String) :
    WaitsPunctually (checker.waitJob job) (success checker.namespaceName job) (.jobTimeout job)
      pause bound world := by
  have unmeant (reply : Outcome (Option JobStatus)) :
      success checker.namespaceName job reply ≠ .error (.of (.jobTimeout job)) := by
    intro meant
    rcases success_error_cases meant with other | ⟨reason, other⟩ | ⟨text, other⟩ <;> cases other
  obtain ⟨askings, follows, punctual⟩ :=
    isPunctual_pollFor (asksOnly_askSucceeded checker job) (avoids_askSucceeded checker job) timely
      forwards unmeant nofun bound_eq
  unfold WaitsPunctually
  rw [waitJob_eq, interval_eq, timeout_eq, run_bind]
  rcases polled :
      (pollFor (.readJobStatus checker.namespaceName job) (checker.askSucceeded job)
        (.jobTimeout job) (.seconds pause) (.seconds limit)).run world with ⟨outcome, after⟩
  rw [polled] at follows punctual
  cases outcome with
  | error failure => exact ⟨_, follows.history_eq, punctual.of_error⟩
  | ok found =>
      obtain ⟨trace, listing, reply, rfl, finite, inTime⟩ :=
        conforms_firstPod checker.namespaceName job after
      have other :
          (⟨.listPods checker.namespaceName job, reply⟩ : Exchange).call ≠
            .readJobStatus checker.namespaceName job := nofun
      exact ⟨_, (follows.trans listing).history_eq, punctual.snoc other finite inTime⟩

/-- The wait until a volume is gone is punctual. -/
theorem waitsPunctually_waitDeletion
    {reclaimer : Reclaimer}
    (timely : world.script.IsTimely)
    (forwards : 0 < pause)
    (interval_eq : reclaimer.pollInterval = .seconds pause)
    (timeout_eq : reclaimer.deletionTimeout = .seconds limit)
    (bound_eq : deadline world.reading (.seconds limit) = some bound)
    (volume : String) :
    WaitsPunctually (reclaimer.waitDeletion volume) (absence volume) (.deletionTimeout volume)
      pause bound world := by
  have unmeant (reply : Outcome Unit) :
      absence volume reply ≠ .error (.of (.deletionTimeout volume)) := by
    intro meant
    rcases absence_error_cases meant with ⟨reason, other⟩ | ⟨text, other⟩ <;> cases other
  -- What is noted first changes neither the clock nor the history.
  obtain ⟨records, noted⟩ :=
    exists_run_note .info ("Waiting for pv " ++ volume ++ " to be deleted") world
  have stillTimely : { world with records }.script.IsTimely := timely
  obtain ⟨askings, follows, punctual⟩ :=
    isPunctual_pollFor (asksOnly_askGone volume) (avoids_askGone volume) stillTimely forwards
      unmeant nofun bound_eq
  have ran :
      (reclaimer.waitDeletion volume).run world =
        (pollFor (.readVolume volume) (Reclaimer.askGone volume) (.deletionTimeout volume)
          (.seconds pause) (.seconds limit)).run { world with records } := by
    unfold Reclaimer.waitDeletion
    rw [run_bind, noted, interval_eq, timeout_eq]
  unfold WaitsPunctually
  rw [ran]
  exact ⟨_, follows.history_eq, { punctual with }⟩

end Actions

/-- With pauses and a finite timeout, the wait for a job and the wait until a volume is gone are
punctual, wherever they begin.  The clock shows the deadline at the deadline, and if the time of
the beginning and the timeout are binary numbers, it does so at their exact sum. -/
theorem waits_are_punctual
    {world : World}
    (timely : world.script.IsTimely)
    {pause limit bound : Rat}
    (forwards : 0 < pause)
    (bound_eq : deadline world.reading (.seconds limit) = some bound) :
    (∀ (checker : Checker) (job : String),
        checker.pollInterval = .seconds pause →
          checker.jobTimeout = .seconds limit →
            WaitsPunctually (checker.waitJob job) (success checker.namespaceName job)
              (.jobTimeout job) pause bound world) ∧
      (∀ (reclaimer : Reclaimer) (volume : String),
        reclaimer.pollInterval = .seconds pause →
          reclaimer.deletionTimeout = .seconds limit →
            WaitsPunctually (reclaimer.waitDeletion volume) (absence volume)
              (.deletionTimeout volume) pause bound world) ∧
      bound = Binary64.nearest bound ∧
      (Binary64.IsBinary world.clock → Binary64.IsBinary limit →
        bound = Binary64.nearest (world.clock + limit)) := by
  refine ⟨?_, ?_, (nearest_deadline bound_eq).symm, ?_⟩
  · intro checker job interval_eq timeout_eq
    exact waitsPunctually_waitJob timely forwards interval_eq timeout_eq bound_eq job
  · intro reclaimer volume interval_eq timeout_eq
    exact waitsPunctually_waitDeletion timely forwards interval_eq timeout_eq bound_eq volume
  · intro begun timeout
    have reading_eq : world.reading = world.clock := Binary64.nearest_eq_self_iff.mpr begun
    rw [reading_eq, deadline, Binary64.nearest_eq_self_iff.mpr timeout] at bound_eq
    exact (Option.some.inj bound_eq).symm

/-- A cluster in which jobs go on and volumes stay for ever. -/
def idleScript : Script :=
  { routes := fun
      | .readJobStatus => [{ argument := none, responses := [.immediate (.answered none)] }]
      | .readVolume => [{ argument := none, responses := [.immediate (.answered ())] }]
      | _ => [] }

theorem idleScript_isTimely : idleScript.IsTimely := by
  intro method
  cases method <;> decide

/-- A checker that gives up after three seconds. -/
def hastyChecker : Checker :=
  { plainChecker with
    pollInterval := .seconds 2
    deletionTimeout := .seconds 3
    jobTimeout := .seconds 3 }

theorem waits_are_punctual_idle :
    idleScript.IsTimely ∧ (0 : Rat) < 2 ∧
      deadline (World.start idleScript).reading (.seconds 3) = some 3 ∧
      WaitsPunctually (hastyChecker.waitJob "job") (success defaultNamespace "job")
        (.jobTimeout "job") 2 3 (.start idleScript) ∧
      WaitsPunctually (hastyChecker.reclaimer.waitDeletion "volume") (absence "volume")
        (.deletionTimeout "volume") 2 3 (.start idleScript) ∧
      ((hastyChecker.waitJob "job").run (.start idleScript)).1 =
        .error (.of (.jobTimeout "job")) ∧
      ((hastyChecker.reclaimer.waitDeletion "volume").run (.start idleScript)).2.calls =
        [.readVolume "volume", .readVolume "volume", .readVolume "volume"] := by
  have forwards : (0 : Rat) < 2 := by decide
  have bound_eq : deadline (World.start idleScript).reading (.seconds 3) = some 3 := by
    decide +kernel
  obtain ⟨jobs, volumes, -⟩ :=
    @waits_are_punctual (.start idleScript) idleScript_isTimely 2 3 3 forwards bound_eq
  refine ⟨idleScript_isTimely, forwards, bound_eq, ?_, ?_, by decide +kernel, by decide +kernel⟩
  · exact jobs hastyChecker "job" rfl rfl
  · exact volumes hastyChecker.reclaimer "volume" rfl rfl

/-- A time so small that it is rounded away when it is added to a deadline of some minutes. -/
def moment : Rat := 1 / 2 ^ 45

/-- A checker that gives up after two hundred and fifty-six seconds, and pauses for a moment less
than that. -/
def roundingChecker : Checker :=
  { plainChecker with
    pollInterval := .seconds (256 - moment)
    jobTimeout := .seconds 256 }

/-- The wait for a job that begins a moment after the start in that cluster. -/
def roundedWait : Except Failure (Option String) × World :=
  (roundingChecker.waitJob "job").run { World.start idleScript with clock := moment }

/-- A wait is given up too early if its deadline is rounded down: the second question is answered
before the timeout has passed since the wait began, and it is the last one. -/
theorem waits_give_up_early_rounded :
    0 < 256 - moment ∧
      roundedWait.1 = .error (.of (.jobTimeout "job")) ∧
      roundedWait.2.calls =
        [.readJobStatus defaultNamespace "job", .readJobStatus defaultNamespace "job"] ∧
      ¬ moment + 256 ≤ roundedWait.2.clock := by
  decide +kernel

end Probe
end Headroom
