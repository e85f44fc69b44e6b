import Headroom.Proofs.Probe.Deletions

/-!
# What is reported about claims

Claims may fail one by one, and all that is reported in the end is one failure.  When
every claim has had its turn, nothing is lost: a single cause is reported as it is, and
several are reported together in the order of their claims.

When the turns are stopped before, it is the failure of the last turn that is reported,
and it does not carry the causes of the turns before it.
-/

namespace Headroom

/-- The causes that an error names. -/
def CheckError.causes : CheckError → List Cause
  | .single cause => [cause]
  | .cleanup causes => causes

/-- A failure carries a cause: for it alone, together with others, or in its chain. -/
def Failure.Carries
    (failure : Failure)
    (cause : Cause) : Prop :=
  ∃ error ∈ failure.chain, cause ∈ error.causes

namespace Probe

open Cluster Action

/-- Nothing is reported of no cause, a single cause is reported as it is, and several are reported
together in their order. -/
structure Aggregates
    (causes : List Cause)
    (outcome : Except Failure Unit) : Prop where
  succeeds_iff : outcome = .ok () ↔ causes = []
  fails_alone_iff : ∀ cause, outcome = .error (.of cause) ↔ causes = [cause]
  fails_together :
    2 ≤ causes.length →
      ∃ error, outcome = .error (.check error []) ∧ error.kind = .cleanup ∧
        error.causes = causes ∧
        error.message =
          "failed to delete temporary pvcs: " ++
            String.intercalate "; " (causes.map Cause.message)

/-- Causes are gathered into one report. -/
theorem aggregates_gathered (causes : List Cause) : Aggregates causes (gathered causes) := by
  match causes with
  | [] =>
      exact
        { succeeds_iff := by simp [gathered]
          fails_alone_iff := by simp [gathered]
          fails_together := fun several => absurd several (by decide) }
  | [sole] =>
      exact
        { succeeds_iff := by simp [gathered]
          fails_alone_iff := by simp [gathered, Failure.of]
          fails_together := fun several => absurd several (by simp) }
  | first :: second :: others =>
      exact
        { succeeds_iff := by simp [gathered]
          fails_alone_iff := by simp [gathered, Failure.of]
          fails_together := fun _ => ⟨_, rfl, rfl, rfl, rfl⟩ }

/-- Every cause that was gathered is carried by the report. -/
theorem carries_gathered
    {causes : List Cause}
    {cause : Cause}
    (listed : cause ∈ causes) :
    ∃ failure, gathered causes = .error failure ∧ failure.Carries cause := by
  match causes with
  | [sole] => exact ⟨_, rfl, .single sole, List.mem_singleton_self _, listed⟩
  | first :: second :: others =>
      exact ⟨_, rfl, .cleanup (first :: second :: others), List.mem_singleton_self _, listed⟩

/-- What is gathered stops nothing, unless it is that the run is cancelled. -/
theorem stops_of_gathered
    {causes : List Cause}
    {failure : Failure}
    (ended : gathered causes = .error failure)
    (stops : failure.stops = true) :
    .cancelled ∈ causes := by
  match causes with
  | [] => cases ended
  | [sole] =>
      cases ended
      have isCancelled : sole = .cancelled := by simpa [Failure.of, Failure.stops] using stops
      rw [isCancelled]
      exact List.mem_singleton_self _
  | first :: second :: others =>
      cases ended
      cases stops

/-- A turn after which the next one comes has not failed as cancelled. -/
theorem cause?_ne_cancelled_of_goesOn
    {made : Turn}
    (goesOn : made.goesOn = true) :
    made.cause? ≠ some .cancelled := by
  intro caused
  unfold Turn.cause? at caused
  split at caused
  · rename_i cause earlier ended
    cases caused
    rw [Turn.goesOn, ended] at goesOn
    cases goesOn
  · cases caused

/-- The cause for which a turn failed is carried by its failure. -/
theorem carries_of_cause?
    {made : Turn}
    {failure : Failure}
    (ended : made.ending = .error failure)
    {cause : Cause}
    (caused : made.cause? = some cause) :
    failure.Carries cause := by
  unfold Turn.cause? at caused
  rw [ended] at caused
  match failure with
  | .check (.single sole) earlier =>
      cases caused
      exact ⟨.single cause, List.mem_cons_self, List.mem_singleton_self _⟩

/-- A failure that stops the turns, and in whose wake no other one arose, carries at most the
cause that the run is cancelled. -/
theorem eq_cancelled_of_carries
    {failure : Failure}
    (original : failure.IsOriginal)
    (stops : failure.stops = true)
    {cause : Cause}
    (carries : failure.Carries cause) :
    cause = .cancelled := by
  obtain ⟨error, listed, named⟩ := carries
  match failure with
  | .check other earlier =>
      obtain rfl : other = .single .cancelled := by simpa [Failure.stops] using stops
      obtain rfl : earlier = [] := original
      obtain rfl := List.mem_singleton.mp listed
      exact List.mem_singleton.mp named
  | .foreign fault => cases listed
  | .impasse reason => cases listed

/-- The cause of every turn that failed for one is carried by what is reported in the end. -/
def CarriesAll
    (made : List Turn)
    (outcome : Except Failure Unit) : Prop :=
  ∀ turn ∈ made, ∀ cause, turn.cause? = some cause →
    ∃ failure, outcome = .error failure ∧ failure.Carries cause

/-- When every claim has its turn, nothing is lost. -/
theorem carriesAll_gathered (made : List Turn) :
    CarriesAll made (gathered (made.filterMap Turn.cause?)) :=
  fun turn listed _ caused => carries_gathered (List.mem_filterMap.mpr ⟨turn, listed, caused⟩)

/-- When the last turn stops the others, nothing is lost just if no turn before it has failed. -/
theorem carriesAll_stopped_iff
    {earlier : List Turn}
    {last : Turn}
    {failure : Failure}
    (wentOn : ∀ turn ∈ earlier, turn.goesOn = true)
    (ended : last.ending = .error failure)
    (original : failure.IsOriginal)
    (stops : failure.stops = true) :
    CarriesAll (earlier ++ [last]) (.error failure) ↔ ∀ turn ∈ earlier, turn.cause? = none := by
  constructor
  · intro carries turn listed
    cases caused : turn.cause? with
    | none => rfl
    | some cause =>
        obtain ⟨reported, same, carried⟩ :=
          carries turn (List.mem_append_left _ listed) cause caused
        cases same
        obtain rfl := eq_cancelled_of_carries original stops carried
        exact absurd caused (cause?_ne_cancelled_of_goesOn (wentOn turn listed))
  · intro quiet turn listed cause caused
    rcases List.mem_append.mp listed with before | same
    · rw [quiet turn before] at caused
      cases caused
    · rw [List.mem_singleton.mp same] at caused
      exact ⟨failure, rfl, carries_of_cause? ended caused⟩

/-- However the turns end, nothing is lost unless they were stopped after one of them had failed. -/
theorem TurnsEnd.carriesAll_iff
    {claims : List Reference}
    {made : List Turn}
    {after : World}
    {collected : Except Failure (List Cause)}
    (ends : TurnsEnd claims made after collected)
    (runs : ∀ turn ∈ made, ReclaimRun turn.claim turn.trace turn.ending) :
    CarriesAll made (collected.bind gathered) ↔
      ((∃ failure, collected.bind gathered = .error failure ∧ failure.stops = true) →
        ∀ turn ∈ made.dropLast, turn.cause? = none) := by
  cases ends with
  | done all wentOn =>
      refine iff_of_true (carriesAll_gathered made) ?_
      -- No turn has failed as cancelled, and nothing else that was gathered stops anything.
      rintro ⟨failure, ended, stops⟩
      obtain ⟨turn, listed, caused⟩ := List.mem_filterMap.mp (stops_of_gathered ended stops)
      exact absurd caused (cause?_ne_cancelled_of_goesOn (wentOn turn listed))
  | @stopped earlier last failure made_eq begun wentOn ended stops after_eq =>
      subst made_eq
      have run := runs last (List.mem_append_right earlier (List.mem_singleton_self last))
      rw [ended] at run
      rw [List.dropLast_concat]
      exact (carriesAll_stopped_iff wentOn ended run.isOriginal stops).trans
        ⟨fun quiet _ => quiet, fun quiet => quiet ⟨failure, rfl, stops⟩⟩

/-- In an orderly cluster, and unless the run is cancelled, every claim has its turn, in which it
is reclaimed, and the causes for which turns failed are reported together. -/
theorem deleteClaims_aggregates
    (reclaimer : Reclaimer)
    (claims : List Reference)
    {world after : World}
    {outcome : Except Failure Unit}
    (orderly : world.script.NeverCrashes)
    (ran : (reclaimer.deleteClaims claims).run world = (outcome, after))
    (uncancelled : after.isCancelled = false)
    {trace : List Exchange}
    (grown : after.history = world.history ++ trace) :
    let made := turns reclaimer claims world
    trace = made.flatMap Turn.trace ∧
      (∀ turn ∈ made, ReclaimRun turn.claim turn.trace turn.ending) ∧
      ((∀ reason, outcome ≠ .error (.impasse reason)) →
        made.map (·.claim) = claims ∧
          (∀ turn ∈ made,
            turn.ending = turn.cause?.elim (.ok ()) fun cause => .error (.of cause)) ∧
          Aggregates (made.filterMap Turn.cause?) outcome) ∧
      (claims = [] → trace = [] ∧ outcome = .ok ()) ∧
      ∀ impasse, RulesOut impasse reclaimer.pollInterval reclaimer.deletionTimeout →
        world.script.IsTimely → outcome ≠ .error (.impasse impasse) := by
  obtain ⟨rfl, rfl⟩ := Prod.ext_iff.mp ran
  have trace_eq : trace = (turns reclaimer claims world).flatMap Turn.trace :=
    trace_eq_turns grown
  refine ⟨trace_eq, fun turn listed => (turns_run reclaimer claims world turn listed).2, ?_, ?_, ?_⟩
  · intro finite
    obtain ⟨all, wentOn, reported⟩ := turns_of_uncancelled orderly uncancelled finite
    refine ⟨all, ?_, ?_⟩
    · intro turn listed
      exact ending_eq_of_goesOn (turns_run reclaimer claims world turn listed).2
        (wentOn turn listed)
    · rw [reported]
      exact aggregates_gathered _
  · rintro rfl
    exact ⟨trace_eq, rfl⟩
  · intro impasse ruledOut timely
    exact (avoids_deleteClaims ruledOut claims world timely).1

/-- A cluster in which volumes are listed from the second time on, and in which the volume of the
second claim cannot be read. -/
def grudgingScript : Script :=
  { routes := fun
      | .listVolumes =>
        [{ argument := none
           responses :=
            [.immediate (.refused 500 (some "Internal Server Error")),
              .immediate (.answered
                [{ name := "pv1"
                   spec := some
                    { storageClass := none
                      storage := none
                      claim := some ⟨some "pvc1", some defaultNamespace⟩ } }])] }]
      | .readVolume =>
        [{ argument := none
           responses :=
            [.immediate (.answered ()), .immediate (.refused 403 (some "Forbidden"))] }]
      | _ => [] }

/-- What becomes of the claims in that cluster. -/
def grudgingRun : Except Failure Unit × World :=
  (plainChecker.reclaimer.deleteClaims temporaryClaims).run (.start grudgingScript)

theorem grudgingScript_neverCrashes : grudgingScript.NeverCrashes := by
  intro method
  cases method <;> decide

theorem deleteClaims_aggregates_grudging :
    let made := turns plainChecker.reclaimer temporaryClaims (.start grudgingScript)
    grudgingScript.NeverCrashes ∧
      grudgingRun.2.isCancelled = false ∧
      grudgingRun.1 =
        .error (.check
          (.cleanup
            [.requestFailed .listVolumes (some "Internal Server Error"),
              .requestFailed (.readVolume "pv1") (some "Forbidden")])
          []) ∧
      grudgingRun.2.history = made.flatMap Turn.trace ∧
      (∀ turn ∈ made, ReclaimRun turn.claim turn.trace turn.ending) ∧
      made.map (·.claim) = temporaryClaims ∧
      Aggregates (made.filterMap Turn.cause?) grudgingRun.1 := by
  have uncancelled : grudgingRun.2.isCancelled = false := by decide +kernel
  have reported :
      grudgingRun.1 =
        .error (.check
          (.cleanup
            [.requestFailed .listVolumes (some "Internal Server Error"),
              .requestFailed (.readVolume "pv1") (some "Forbidden")])
          []) := by
    decide +kernel
  have ran :
      (plainChecker.reclaimer.deleteClaims temporaryClaims).run (.start grudgingScript) =
        (grudgingRun.1, grudgingRun.2) := rfl
  have grown :
      grudgingRun.2.history = (World.start grudgingScript).history ++ grudgingRun.2.history := by
    rw [World.history_start, List.nil_append]
  obtain ⟨trace_eq, runs, finished, -, -⟩ :=
    deleteClaims_aggregates plainChecker.reclaimer temporaryClaims
      grudgingScript_neverCrashes ran uncancelled grown
  obtain ⟨all, -, aggregates⟩ := finished (by rw [reported]; nofun)
  exact ⟨grudgingScript_neverCrashes, uncancelled, reported, trace_eq, runs, all, aggregates⟩

/-- What is reported carries the causes of all turns, except if the turns were stopped after one of
them had failed. -/
theorem deleteClaims_carries_iff
    (reclaimer : Reclaimer)
    (claims : List Reference)
    (world : World) :
    let made := turns reclaimer claims world
    let outcome := ((reclaimer.deleteClaims claims).run world).1
    ((reclaimer.deleteClaims claims).run world).2.history =
        world.history ++ made.flatMap Turn.trace ∧
      made.map (·.claim) <+: claims ∧
      (CarriesAll made outcome ↔
        ((∃ failure, outcome = .error failure ∧ failure.stops = true) →
          ∀ turn ∈ made.dropLast, turn.cause? = none)) := by
  rw [run_deleteClaims]
  obtain ⟨follows, ends⟩ := run_deleteEach reclaimer claims world
  have runs (turn : Turn) (listed : turn ∈ turns reclaimer claims world) :
      ReclaimRun turn.claim turn.trace turn.ending :=
    (turns_run reclaimer claims world turn listed).2
  exact ⟨follows.history_eq, ends.begun, ends.carriesAll_iff runs⟩

/-- A cluster in which the first claim may not be deleted, and in which the second one has a
volume. -/
def forbiddingScript : Script :=
  { routes := fun
      | .deleteClaim =>
        [{ argument := some "pvc0"
           responses := [.immediate (.refused 403 (some "Forbidden"))] }]
      | .listVolumes =>
        [{ argument := none
           responses :=
            [.immediate (.answered
              [{ name := "pv1"
                 spec := some
                  { storageClass := none
                    storage := none
                    claim := some ⟨some "pvc1", some defaultNamespace⟩ } }])] }]
      | _ => [] }

/-- A run against that cluster that is cancelled as soon as the second claim is deleted. -/
def interruptedWorld : World :=
  { World.start forbiddingScript with cancellation := { atTime := none, atCall := some 3 } }

/-- A cancellation makes the failures before it forgotten. -/
theorem deleteClaims_forgets_cause_interrupted :
    let made := turns plainChecker.reclaimer temporaryClaims interruptedWorld
    let outcome := ((plainChecker.reclaimer.deleteClaims temporaryClaims).run interruptedWorld).1
    (∃ turn ∈ made,
        turn.cause? =
          some (.requestFailed (.deleteClaim ⟨some "pvc0", some defaultNamespace⟩)
            (some "Forbidden"))) ∧
      outcome = .error (.of .cancelled) ∧ ¬ CarriesAll made outcome := by
  intro made outcome
  have caused :
      ∃ turn ∈ made,
        turn.cause? =
          some (.requestFailed (.deleteClaim ⟨some "pvc0", some defaultNamespace⟩)
            (some "Forbidden")) := by
    decide +kernel
  have ended : outcome = .error (.of .cancelled) := by decide +kernel
  refine ⟨caused, ended, fun carriesAll => ?_⟩
  obtain ⟨turn, listed, failed⟩ := caused
  obtain ⟨failure, same, carried⟩ := carriesAll turn listed _ failed
  obtain rfl : .of .cancelled = failure := Except.error.inj (ended.symm.trans same)
  have original : (Failure.of .cancelled).IsOriginal := rfl
  cases eq_cancelled_of_carries original rfl carried

end Probe
end Headroom
