import Headroom.Proofs.Binary64.Rounding
import Headroom.Proofs.Cluster.Ending
import Headroom.Proofs.Probe.Polling
import Headroom.Probe.Survey

/-!
# Checks come to an end

A wait with a pause between its polls and with a timeout comes to an end: each poll
moves the clock on by the pause at least, so that the deadline has passed before the
polls are used up.  The clock shows the deadline as soon as it has passed, for rounding
keeps the order of times and the deadline is a rounded time itself.  Nothing else in a
check can go on for ever.

In the same way a check asks nobody to wait longer than they can if its pauses are short
enough.
-/

namespace Headroom
namespace Cluster
namespace World

variable {world : World} {seconds : Rat}

/-- A run that is not cancelled is cancelled later, if at all. -/
theorem clock_lt_of_isCancelled
    (going : world.isCancelled = false)
    {time : Rat}
    (planned : world.cancellation.atTime = some time) :
    world.clock < time := by
  simp only [isCancelled, planned, Option.any_some, Bool.or_eq_false_iff,
    decide_eq_false_iff_not] at going
  exact Rat.not_le.mp going.1

/-- Waiting moves the clock on. -/
theorem later_afterWait
    (forwards : 0 ≤ seconds)
    (going : world.isCancelled = false) :
    Later world (world.afterWait seconds) := by
  unfold afterWait
  split
  · exact ⟨rfl, by dsimp only; grind⟩
  · rename_i time planned
    have ahead := clock_lt_of_isCancelled going planned
    split
    · exact ⟨rfl, Rat.le_of_lt ahead⟩
    · exact ⟨rfl, by dsimp only; grind⟩

/-- While the clock shows a time before a reading, every time at which it would show that reading
is still to come. -/
theorem clock_lt_of_reading_lt
    {bound due : Rat}
    (early : world.reading < bound)
    (due_le : bound ≤ Binary64.nearest due) :
    world.clock < due := by
  refine Rat.not_le.mp fun passed => ?_
  have shown : Binary64.nearest due ≤ world.reading := Binary64.nearest_mono passed
  exact Rat.not_lt.mpr (Rat.le_trans due_le shown) early

end World

namespace Action

variable {impasse : Impasse} {interval : Duration} {world : World}

/-- A wait avoids an impasse if it does not turn the clock back and if, should the impasse be an
overlong pause, its pause is none. -/
theorem avoidsIn_wait
    (forwards : ∀ pause, interval.waitable? = some pause → 0 ≤ pause)
    (possible : impasse = .overlongPause → interval.waitable? ≠ none)
    (world : World) :
    AvoidsIn impasse (wait interval) world := by
  unfold AvoidsIn
  rw [run_wait]
  split
  · exact ⟨nofun, .refl world⟩
  · rename_i going
    split
    · rename_i overlong
      refine ⟨?_, .refl world⟩
      rintro ⟨⟩
      exact possible rfl overlong
    · rename_i pause found
      exact ⟨nofun, World.later_afterWait (forwards pause found) (Bool.not_eq_true _ ▸ going)⟩

/-- A wait after which the run is not cancelled has taken its full time. -/
theorem clock_of_wait
    {after : World}
    (ran : (wait interval).run world = (.ok false, after)) :
    ∃ pause, interval.waitable? = some pause ∧ after.clock = world.clock + pause := by
  rw [run_wait] at ran
  split at ran
  · cases ran
  split at ran
  · cases ran
  rename_i pause found
  rw [Prod.mk.injEq] at ran
  obtain ⟨ended, rfl⟩ := ran
  refine ⟨pause, found, ?_⟩
  unfold World.afterWait
  split
  · rfl
  · rename_i time planned
    simp only [planned, Option.any_some, Except.ok.injEq, decide_eq_false_iff_not] at ended
    rw [if_neg ended]

end Action
end Cluster

namespace Probe

open Cluster Action

/-- A limit is reached within its steps. -/
theorem le_stepsWithin_mul
    {limit step : Rat}
    (forwards : 0 < step) :
    limit ≤ stepsWithin limit step * step := by
  have reached : limit / step ≤ (limit / step).ceil := Rat.le_ceil
  have rounded : ((limit / step).ceil : Rat) ≤ ((limit / step).ceil.toNat : Int) :=
    Rat.intCast_le_intCast.mpr (Int.self_le_toNat _)
  rw [stepsWithin, if_pos forwards]
  calc
    limit = limit / step * step := (Rat.div_mul_cancel (Rat.ne_of_gt forwards)).symm
    _ ≤ ((limit / step).ceil.toNat : Int) * step :=
      Rat.mul_le_mul_of_nonneg_right (Rat.le_trans reached rounded) (Rat.le_of_lt forwards)

/-- The pauses of a patient wait reach beyond its deadline. -/
theorem stepsWithin_lt_patience
    {interval timeout : Duration}
    {pause due : Rat}
    {world : World}
    (found : interval.waitable? = some pause)
    (due_eq : deadline world.reading timeout = some due)
    (call : Call) :
    stepsWithin (due - world.clock) pause < patience world call interval timeout := by
  simp only [patience, found, due_eq, Option.map_some, Option.getD_some]
  omega

/-- A deadline is a time that the clock may show. -/
theorem nearest_deadline
    {reading due : Rat}
    {timeout : Duration}
    (due_eq : deadline reading timeout = some due) :
    Binary64.nearest due = due := by
  cases timeout with
  | seconds limit =>
      cases due_eq
      exact Binary64.nearest_nearest _
  | unbounded => cases due_eq

/-- The deadline is what adding the timeout to the reading gives, if that is not too great for a
number. -/
theorem deadline_eq_toRat?_add
    {shown timeout : Binary64}
    {reading limit : Rat}
    (shown_eq : shown.toRat? = some reading)
    (timeout_eq : timeout.toRat? = some limit)
    (binary : Binary64.IsBinary limit)
    (finite : ∀ negative, shown.add timeout ≠ .infinite negative) :
    deadline reading (.seconds limit) = (shown.add timeout).toRat? := by
  rcases Binary64.toRat?_add shown_eq timeout_eq with infinite | sum
  · exact (finite _ infinite).elim
  · rw [sum, deadline, Binary64.nearest_eq_self_iff.mpr binary]

/-- A wait pauses between its polls, and there is a time after which it is given up. -/
structure IsBounded (interval timeout : Duration) : Prop where
  pauses : ∃ pause, interval = .seconds pause ∧ 0 < pause
  gives_up : ∃ limit, timeout = .seconds limit

/-- What keeps a wait from an impasse: bounds, and a pause that somebody can be made to wait. -/
def RulesOut : Impasse → Duration → Duration → Prop
  | .endless, interval, timeout => IsBounded interval timeout
  | .overlongPause, interval, _ => ∃ pause, interval.waitable? = some pause ∧ 0 ≤ pause

section Polling

variable
  {α : Type}
  {ask : Action (Option α)}
  {late : Cause}
  {impasse : Impasse}
  {interval timeout : Duration}

/-- Waits that are kept from an impasse do not turn the clock back. -/
theorem RulesOut.nonneg
    (ruledOut : RulesOut impasse interval timeout)
    {pause : Rat}
    (found : interval.waitable? = some pause) :
    0 ≤ pause := by
  cases impasse with
  | endless =>
      obtain ⟨⟨amount, rfl, forwards⟩, -⟩ := ruledOut
      obtain ⟨⟨⟩, -⟩ := Duration.waitable?_eq_some_iff.mp found
      exact Rat.le_of_lt forwards
  | overlongPause =>
      obtain ⟨amount, same, forwards⟩ := ruledOut
      cases found.symm.trans same
      exact forwards

theorem RulesOut.avoidsIn_wait
    (ruledOut : RulesOut impasse interval timeout)
    (world : World) :
    AvoidsIn impasse (wait interval) world := by
  refine Action.avoidsIn_wait (fun pause found => ruledOut.nonneg found) ?_ world
  rintro rfl overlong
  obtain ⟨pause, found, -⟩ := ruledOut
  cases overlong.symm.trans found

/-- A poll goes on only if it is not late, and after a pause. -/
theorem avoidsIn_poll_succ
    (asks : Avoids impasse ask)
    (ruledOut : RulesOut impasse interval timeout)
    {limit : Option Rat}
    {fuel : Nat}
    {world : World}
    (timely : world.script.IsTimely)
    (rest : ∀ asked after, after.script.IsTimely → world.clock ≤ asked.clock →
      limit.any (· ≤ asked.reading) = false →
        (wait interval).run asked = (.ok false, after) →
          AvoidsIn impasse (poll ask late interval limit fuel) after) :
    AvoidsIn impasse (poll ask late interval limit (fuel + 1)) world := by
  unfold poll
  refine avoidsIn_observe_bind ?_
  split
  · exact avoidsIn_fail_bind world
  refine (asks world timely).bind ?_
  intro answer asked _ later
  cases answer with
  | some value => exact avoids_pure value asked (later.isTimely timely)
  | none =>
      refine avoidsIn_observe_bind ?_
      split
      · exact avoidsIn_fail_bind asked
      rename_i inTime
      refine (ruledOut.avoidsIn_wait asked).bind ?_
      intro cancelled after ran evenLater
      cases cancelled with
      | true => exact avoidsIn_fail _ after
      | false =>
          exact rest asked after (evenLater.isTimely (later.isTimely timely)) later.clock_le
            (Bool.not_eq_true _ ▸ inTime) ran

/-- A poll comes to an end if its pauses reach beyond the time at which the clock shows its
deadline. -/
theorem avoidsIn_poll_endless
    (asks : Avoids .endless ask)
    (bounded : IsBounded interval timeout)
    {pause bound due : Rat}
    (found : interval.waitable? = some pause)
    (due_le : bound ≤ Binary64.nearest due)
    {fuel : Nat}
    {world : World}
    (timely : world.script.IsTimely)
    (enough : due ≤ world.clock + fuel * pause) :
    AvoidsIn .endless (poll ask late interval (some bound) (fuel + 1)) world := by
  have ruledOut : RulesOut .endless interval timeout := bounded
  induction fuel generalizing world with
  | zero =>
      refine avoidsIn_poll_succ asks ruledOut timely ?_
      intro asked after _ clock_le inTime _
      have early : asked.reading < bound := Rat.not_le.mp (by simpa using inTime)
      have before := World.clock_lt_of_reading_lt early due_le
      grind
  | succ fuel inductionHypothesis =>
      refine avoidsIn_poll_succ asks ruledOut timely ?_
      intro asked after stillTimely clock_le _ ran
      obtain ⟨amount, same, clock_eq⟩ := clock_of_wait ran
      cases same.symm.trans found
      refine inductionHypothesis stillTimely ?_
      calc
        due ≤ world.clock + ((fuel + 1 : Nat) : Rat) * pause := enough
        _ = world.clock + pause + fuel * pause := by grind
        _ ≤ asked.clock + pause + fuel * pause :=
          Rat.add_le_add_right.mpr (Rat.add_le_add_right.mpr clock_le)
        _ = after.clock + fuel * pause := by rw [clock_eq]

/-- A poll with an overlong pause comes to an end at its first pause. -/
theorem avoidsIn_poll_of_overlong
    (asks : Avoids impasse ask)
    (ruledOut : RulesOut impasse interval timeout)
    (overlong : interval.waitable? = none)
    {limit : Option Rat}
    {fuel : Nat}
    {world : World}
    (timely : world.script.IsTimely) :
    AvoidsIn impasse (poll ask late interval limit (fuel + 1)) world := by
  refine avoidsIn_poll_succ asks ruledOut timely ?_
  intro asked after _ _ _ ran
  obtain ⟨pause, found, -⟩ := clock_of_wait ran
  cases overlong.symm.trans found

/-- A poll asks nobody to wait longer than they can if its pause is short enough. -/
theorem avoidsIn_poll_overlongPause
    (asks : Avoids .overlongPause ask)
    (ruledOut : RulesOut .overlongPause interval timeout)
    {limit : Option Rat}
    (fuel : Nat)
    {world : World}
    (timely : world.script.IsTimely) :
    AvoidsIn .overlongPause (poll ask late interval limit fuel) world := by
  induction fuel generalizing world with
  | zero =>
      have other : Failure.impasse .endless ≠ .impasse .overlongPause := by decide
      exact avoids_throw other world timely
  | succ fuel inductionHypothesis =>
      refine avoidsIn_poll_succ asks ruledOut timely ?_
      intro asked after stillTimely _ _ _
      exact inductionHypothesis stillTimely

/-- A wait that is kept from an impasse avoids it. -/
theorem avoids_pollFor
    (asks : Avoids impasse ask)
    (ruledOut : RulesOut impasse interval timeout)
    (call : Call) :
    Avoids impasse (pollFor call ask late interval timeout) := by
  intro world timely
  refine avoidsIn_get_bind ?_
  cases impasse with
  | overlongPause => exact avoidsIn_poll_overlongPause asks ruledOut _ timely
  | endless =>
      obtain ⟨limit, rfl⟩ := ruledOut.gives_up
      obtain ⟨fuel, patient⟩ := exists_patience_eq_succ world call interval (.seconds limit)
      cases found : interval.waitable? with
      | none =>
          rw [patient]
          exact avoidsIn_poll_of_overlong asks ruledOut found timely
      | some pause =>
          obtain ⟨due, due_eq⟩ :
              ∃ due, deadline world.reading (.seconds limit) = some due := ⟨_, rfl⟩
          have steps := stepsWithin_lt_patience found due_eq call
          have forwards : 0 < pause := by
            obtain ⟨⟨amount, rfl, forwards⟩, -⟩ := ruledOut
            obtain ⟨⟨⟩, -⟩ := Duration.waitable?_eq_some_iff.mp found
            exact forwards
          have enough : due ≤ world.clock + fuel * pause := by
            have steps_le : stepsWithin (due - world.clock) pause ≤ fuel := by omega
            have reached : due - world.clock ≤ fuel * pause :=
              Rat.le_trans (le_stepsWithin_mul forwards)
                (Rat.mul_le_mul_of_nonneg_right (Rat.natCast_le_natCast.mpr steps_le)
                  (Rat.le_of_lt forwards))
            grind
          rw [patient, due_eq]
          exact avoidsIn_poll_endless asks ruledOut found
            (nearest_deadline due_eq).ge timely enough

end Polling

section Reclaiming

variable {impasse : Impasse} {reclaimer : Reclaimer}

theorem avoids_askGone (volume : String) : Avoids impasse (Reclaimer.askGone volume) := by
  refine (avoids_requestIfFound (.readVolume volume)).bind ?_
  rintro (_ | ⟨⟩)
  · exact (avoids_note _ _).bind fun _ => avoids_pure (some ())
  · exact avoids_pure none

theorem avoids_deleteClaim
    (ruledOut : RulesOut impasse reclaimer.pollInterval reclaimer.deletionTimeout)
    (claim : Reference) :
    Avoids impasse (reclaimer.deleteClaim claim) := by
  refine ((avoids_request .listVolumes).bind fun volumes => avoids_pure _).bind ?_
  intro volume
  refine (avoids_note _ _).bind fun _ => ?_
  refine ((avoids_requestIfFound (.deleteClaim claim)).map _).bind fun _ => ?_
  cases volume with
  | none => exact avoids_note _ _
  | some volume =>
      exact (avoids_note _ _).bind fun _ => avoids_pollFor (avoids_askGone volume.name) ruledOut _

/-- Claims are dealt with one after the other until none is left. -/
theorem avoids_deleteEach
    (ruledOut : RulesOut impasse reclaimer.pollInterval reclaimer.deletionTimeout)
    (claims : List Reference) :
    Avoids impasse (reclaimer.deleteEach claims) := by
  induction claims with
  | nil => exact avoids_pure []
  | cons claim others inductionHypothesis =>
      unfold Reclaimer.deleteEach
      refine (avoids_deleteClaim ruledOut claim).attempt_bind ?_
      intro outcome finite
      match outcome with
      | .ok () => exact inductionHypothesis
      | .error (.check (.single cause) earlier) =>
          dsimp only
          split
          · exact avoids_throw_bind nofun
          · refine (avoids_note _ _).bind fun _ => inductionHypothesis.bind fun causes => ?_
            exact avoids_pure (cause :: causes)
      | .error (.check (.cleanup causes) earlier) => exact avoids_throw nofun
      | .error (.foreign fault) => exact avoids_throw nofun
      | .error (.impasse reason) => exact avoids_throw fun same => finite (congrArg _ same)

theorem avoids_deleteClaims
    (ruledOut : RulesOut impasse reclaimer.pollInterval reclaimer.deletionTimeout)
    (claims : List Reference) :
    Avoids impasse (reclaimer.deleteClaims claims) := by
  refine (avoids_deleteEach ruledOut claims).bind ?_
  intro causes
  match causes with
  | [] => exact avoids_pure ()
  | [cause] => exact avoids_fail cause
  | first :: second :: others => exact avoids_throw nofun

end Reclaiming

/-- The waits of a checker are bounded. -/
structure Checker.IsBounded (checker : Checker) : Prop where
  job : Probe.IsBounded checker.pollInterval checker.jobTimeout
  deletion : Probe.IsBounded checker.pollInterval checker.deletionTimeout

/-- The waits of a checker are kept from an impasse. -/
structure Checker.RulesOut
    (checker : Checker)
    (impasse : Impasse) : Prop where
  job : Probe.RulesOut impasse checker.pollInterval checker.jobTimeout
  deletion : Probe.RulesOut impasse checker.pollInterval checker.deletionTimeout

theorem Checker.IsBounded.rulesOut
    {checker : Checker}
    (bounded : checker.IsBounded) :
    checker.RulesOut .endless :=
  ⟨bounded.job, bounded.deletion⟩

section Checking

variable {impasse : Impasse} {checker : Checker}

theorem avoids_askSucceeded (checker : Checker) (job : String) :
    Avoids impasse (checker.askSucceeded job) := by
  refine (avoids_request (.readJobStatus checker.namespaceName job)).bind ?_
  rintro (_ | status)
  · exact avoids_pure none
  · dsimp only
    split
    · exact avoids_fail_bind
    · exact avoids_pure _

theorem avoids_waitJob
    (ruledOut : checker.RulesOut impasse)
    (job : String) :
    Avoids impasse (checker.waitJob job) := by
  refine (avoids_pollFor (avoids_askSucceeded checker job) ruledOut.job _).bind fun _ => ?_
  refine (avoids_request (.listPods checker.namespaceName job)).bind ?_
  rintro (_ | ⟨pod, others⟩)
  · exact avoids_fail _
  · exact avoids_pure pod

theorem avoids_measure
    (ruledOut : checker.RulesOut impasse)
    (claim : Claim)
    (job : Job)
    (basePath : Text) :
    Avoids impasse (checker.measure claim job basePath) := by
  refine (avoids_note _ _).bind fun _ => (avoids_request _).bind fun _ => ?_
  refine (avoids_note _ _).bind fun _ => (avoids_request _).bind fun _ => ?_
  refine (avoids_waitJob ruledOut job.name).bind fun pod => ?_
  refine (avoids_request _).bind fun usageReport => (avoids_request _).bind fun mountsReport => ?_
  refine (avoids_note _ _).bind fun _ => (avoids_note _ _).bind fun _ => ?_
  cases checker.sampleOfReports basePath usageReport mountsReport with
  | ok sample => exact avoids_pure sample
  | error error => cases error <;> exact avoids_throw nofun

theorem avoids_cleanup
    (ruledOut : checker.RulesOut impasse)
    (claim : Claim)
    (job : Job) :
    Avoids impasse (checker.cleanup claim job) := by
  refine (avoids_note _ _).bind fun _ => ?_
  refine ((avoids_requestIfFound _).map _).bind fun _ => ?_
  exact avoids_deleteClaims ruledOut.deletion _

theorem avoids_judge
    (node : String)
    (reserved : Reservation)
    (sample : Sample) :
    Avoids impasse (Checker.judge node reserved sample) := by
  unfold Checker.judge
  cases sample.covers? reserved with
  | none => exact avoids_throw nofun
  | some hasSpace =>
      dsimp only
      split
      · exact (avoids_note _ _).bind fun _ => avoids_pure _
      · exact avoids_pure _

theorem avoids_probe
    (ruledOut : checker.RulesOut impasse)
    (node : String)
    (reserved : Reservation)
    (basePath : Text) :
    Avoids impasse (checker.probe node reserved basePath) := by
  unfold Checker.probe Checker.requireSchedulable
  refine (avoids_request (.readNode node)).bind fun described => ?_
  cases Checker.unschedulableMarker? described with
  | some marker => exact avoids_fail_bind
  | none =>
      rw [pure_bind]
      refine (avoids_drawSuffix.bind fun _ => avoids_drawSuffix.bind fun _ => avoids_pure _).bind ?_
      rintro ⟨claim, job⟩
      refine Avoids.bind ?_ fun sample => avoids_judge node reserved sample
      exact (avoids_measure ruledOut claim job basePath).thenAlways
        (avoids_cleanup ruledOut claim job)

theorem avoids_basePath (checker : Checker) : Avoids impasse checker.basePath := by
  refine (avoids_call (.readStorageClass checker.destinationClass)).bind ?_
  rintro (storageClass | ⟨status, reason⟩ | reason | text)
  · dsimp only
    cases StorageClass.basePath checker.limits (storageClass.annotations.getD []) with
    | ok path => exact avoids_pure path
    | error error => cases error <;> exact avoids_throw nofun
  · dsimp only
    split
    · exact avoids_fail _
    · exact avoids_fail _
  · exact avoids_fail _
  · exact avoids_throw nofun

/-- Every check of a node avoids what its waits are kept from. -/
theorem avoids_checkNode
    (ruledOut : checker.RulesOut impasse)
    (node : String)
    (reserved : Reservation)
    (basePath : Option Text) :
    Avoids impasse (checker.checkNode node reserved basePath) := by
  cases basePath with
  | some path => exact avoids_probe ruledOut node reserved path
  | none =>
      exact (avoids_basePath checker).bind fun path => avoids_probe ruledOut node reserved path

end Checking

end Probe
end Headroom
