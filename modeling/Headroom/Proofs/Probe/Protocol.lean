import Headroom.Proofs.Probe.Measurement
import Headroom.Proofs.Resource.Name

/-!
# The protocol of a check

A check of one node finds out the base path unless that is given, reads the node,
and then measures it and cleans up.  The descriptions below are the grammar of the
exchanges that this takes, together with the end to which each word of the grammar
leads.

Every run of a check is described by that grammar, for one claim and one job whose
names are drawn in that run and differ.
-/

namespace Headroom
namespace Probe

open Cluster Action

/-- What the outcome of reading the storage class says about the base path. -/
def resolved
    (checker : Checker) :
    Outcome Cluster.StorageClass → Except Failure Text
  | .answered storageClass =>
    (StorageClass.basePath checker.limits (storageClass.annotations.getD [])).mapError
      Failure.ofStorageClass
  | .refused status reason =>
    if status = notFound then .error (.of (.storageClassNotFound checker.destinationClass))
    else .error (.of (.requestFailed (.readStorageClass checker.destinationClass) reason))
  | .unreachable reason =>
    .error (.of (.requestFailed (.readStorageClass checker.destinationClass) reason))
  | .crashed text => .error (.foreign (.crashed text))

/-- Finding out the base path is reading the storage class. -/
theorem run_basePath (checker : Checker) (world : World) :
    checker.basePath.run world =
      (resolved checker
          (world.respond (.readStorageClass checker.destinationClass)).outcome,
        world.afterCall (.readStorageClass checker.destinationClass)) := by
  unfold Checker.basePath
  rw [run_bind, run_call]
  cases (world.respond (.readStorageClass checker.destinationClass)).outcome with
  | answered storageClass =>
      dsimp only [resolved]
      cases StorageClass.basePath checker.limits (storageClass.annotations.getD []) <;> rfl
  | refused status reason =>
      dsimp only [resolved]
      split <;> rfl
  | unreachable reason => rfl
  | crashed text => rfl

theorem conforms_basePath (checker : Checker) (world : World) :
    Conforms checker.basePath world fun trace outcome =>
      ∃ reply, trace = [⟨.readStorageClass checker.destinationClass, reply⟩] ∧
        outcome = resolved checker reply := by
  unfold Conforms
  rw [run_basePath]
  exact ⟨_, .afterCall world _, _, rfl, rfl⟩

/-- The verdict to which a sample leads. -/
def judged
    (node : String)
    (reserved : Reservation)
    (sample : Sample) : Except Failure Verdict :=
  match sample.covers? reserved with
  | none => .error (.foreign .incomparable)
  | some hasSpace => .ok { node, free := sample.free, hasSpace }

/-- Judging a sample makes no exchange. -/
theorem conforms_judge
    (node : String)
    (reserved : Reservation)
    (sample : Sample)
    (world : World) :
    Conforms (Checker.judge node reserved sample) world fun trace outcome =>
      trace = [] ∧ outcome = judged node reserved sample := by
  unfold Checker.judge judged
  cases sample.covers? reserved with
  | none => exact conforms_throw ⟨rfl, rfl⟩
  | some hasSpace =>
      dsimp only
      split
      · exact conforms_note_bind fun noted => conforms_pure ⟨rfl, rfl⟩
      · exact conforms_pure ⟨rfl, rfl⟩

/-- The exchanges of a probe and its end. -/
inductive ProbeRun
    (checker : Checker)
    (node : String)
    (reserved : Reservation)
    (basePath : Text)
    (claim : Claim)
    (job : Job) :
    List Exchange → Except Failure Verdict → Prop
  | unread
      {reply : Outcome Node}
      {failure : Failure}
      (failed : requested (.readNode node) reply = .error failure) :
      ProbeRun checker node reserved basePath claim job
        [⟨.readNode node, reply⟩] (.error failure)
  | marked
      {described : Node}
      {marker : String}
      (carried : Checker.unschedulableMarker? described = some marker) :
      ProbeRun checker node reserved basePath claim job
        [⟨.readNode node, .answered described⟩]
        (.error (.of (.unschedulable (described.metadata.bind (·.name)) marker)))
  | probed
      {described : Node}
      {trace more : List Exchange}
      {outcome : Except Failure Sample}
      {ending : Except Failure Unit}
      (unmarked : Checker.unschedulableMarker? described = none)
      (measurement : MeasureRun checker claim job basePath trace outcome)
      (cleanup : CleanupRun checker claim job more ending) :
      ProbeRun checker node reserved basePath claim job
        (⟨.readNode node, .answered described⟩ :: (trace ++ more))
        ((settle outcome ending).bind (judged node reserved))

/-- The claim that a checker makes for a node. -/
def claimFor
    (checker : Checker)
    (node : String)
    (suffix : List Char) : Claim :=
  Claim.forNode node checker.destinationClass checker.namespaceName suffix

/-- The job that a checker makes for a node and a claim. -/
def jobFor
    (checker : Checker)
    (node : String)
    (basePath : Text)
    (claim : Claim)
    (suffix : List Char) : Job :=
  Job.forNode node basePath claim.name checker.image checker.namespaceName checker.mountPath suffix

/-- The exchanges of a check whose base path may be given, and its end. -/
inductive CheckRun
    (checker : Checker)
    (node : String)
    (reserved : Reservation)
    (claim : Claim)
    (job : Text → Job) :
    Option Text → List Exchange → Except Failure Verdict → Prop
  | given
      {path : Text}
      {trace : List Exchange}
      {outcome : Except Failure Verdict}
      (probe : ProbeRun checker node reserved path claim (job path) trace outcome) :
      CheckRun checker node reserved claim job (some path) trace outcome
  | unresolved
      {reply : Outcome Cluster.StorageClass}
      {failure : Failure}
      (failed : resolved checker reply = .error failure) :
      CheckRun checker node reserved claim job none
        [⟨.readStorageClass checker.destinationClass, reply⟩] (.error failure)
  | found
      {reply : Outcome Cluster.StorageClass}
      {path : Text}
      {trace : List Exchange}
      {outcome : Except Failure Verdict}
      (went : resolved checker reply = .ok path)
      (probe : ProbeRun checker node reserved path claim (job path) trace outcome) :
      CheckRun checker node reserved claim job none
        (⟨.readStorageClass checker.destinationClass, reply⟩ :: trace) outcome

section Conformance

variable (checker : Checker) (node : String) (reserved : Reservation) (world : World)

/-- The claim that the next probe of a node makes. -/
def nextClaim : Claim :=
  claimFor checker node (world.suffixes world.drawn)

/-- The job that the next probe of a node makes. -/
def nextJob (basePath : Text) : Job :=
  jobFor checker node basePath (nextClaim checker node world) (world.suffixes (world.drawn + 1))

/-- Preparing a probe draws two suffixes. -/
theorem conforms_prepare_bind
    {α : Type}
    {basePath : Text}
    {next : Claim × Job → Action α}
    {description : Description α}
    (rest : ∀ after, Conforms
      (next (nextClaim checker node world, nextJob checker node world basePath)) after
      description) :
    Conforms (checker.prepare node basePath >>= next) world description := by
  have ran : (checker.prepare node basePath).run world =
      (.ok (nextClaim checker node world, nextJob checker node world basePath),
        { world with drawn := world.drawn + 1 + 1 }) := rfl
  obtain ⟨trace, continued, described⟩ := rest { world with drawn := world.drawn + 1 + 1 }
  unfold Conforms
  rw [run_bind, ran]
  refine ⟨trace, { continued with drawn_le := ?_ }, described⟩
  exact Nat.le_trans (Nat.le_add_right world.drawn 2) continued.drawn_le

/-- A measurement is followed by its cleanup, and the two settle how it ends. -/
theorem conforms_measure_cleanup
    (claim : Claim)
    (job : Job)
    (basePath : Text) :
    Conforms
      (thenAlways (checker.measure claim job basePath) (checker.cleanup claim job)) world
      fun trace outcome => ∃ first more sample ending,
        MeasureRun checker claim job basePath first sample ∧
          CleanupRun checker claim job more ending ∧
            trace = first ++ more ∧ outcome = settle sample ending := by
  refine (conforms_measure checker claim job basePath world).thenAlways ?_
  intro first sample after measurement
  refine (conforms_cleanup checker claim job after).mono ?_
  intro more ending cleanup
  exact ⟨first, more, sample, ending, measurement, cleanup, rfl, rfl⟩

theorem conforms_probe (basePath : Text) :
    Conforms (checker.probe node reserved basePath) world
      (ProbeRun checker node reserved basePath (nextClaim checker node world)
        (nextJob checker node world basePath)) := by
  unfold Checker.probe
  refine conforms_request_bind (fun reply failure failed => .unread failed) ?_
  intro described
  unfold Checker.requireSchedulable
  cases marks : Checker.unschedulableMarker? described with
  | some marker => exact conforms_fail_bind (.marked marks)
  | none =>
      rw [pure_bind]
      refine conforms_prepare_bind checker node (world.afterCall (.readNode node)) ?_
      intro after
      refine (conforms_measure_cleanup checker after _ _ basePath).bind ?_ ?_
      · rintro trace failure ⟨first, more, sample, ending, measurement, cleanup, rfl, ended⟩
        have run := @ProbeRun.probed checker node reserved basePath _ _ _ _ _ _ _
          marks measurement cleanup
        rw [← ended] at run
        exact run
      · rintro trace sampled later - ⟨first, more, sample, ending, measurement, cleanup, rfl,
          ended⟩
        refine (conforms_judge node reserved sampled later).mono ?_
        rintro nothing outcome ⟨rfl, rfl⟩
        have run := @ProbeRun.probed checker node reserved basePath _ _ _ _ _ _ _
          marks measurement cleanup
        rw [← ended] at run
        rw [List.append_nil]
        exact run

/-- Every check of a node runs as its grammar says, for the claim and the job that are next. -/
theorem conforms_checkNode (basePath : Option Text) :
    Conforms (checker.checkNode node reserved basePath) world
      (CheckRun checker node reserved (nextClaim checker node world)
        (nextJob checker node world) basePath) := by
  unfold Checker.checkNode
  cases basePath with
  | some path =>
      exact (conforms_probe checker node reserved world path).mono
        fun trace outcome probe => .given probe
  | none =>
      refine (conforms_basePath checker world).bind ?_ ?_
      · rintro trace failure ⟨reply, rfl, ended⟩
        exact .unresolved ended.symm
      · rintro trace path after ran ⟨reply, rfl, ended⟩
        rw [run_basePath, Prod.mk.injEq] at ran
        obtain ⟨-, rfl⟩ := ran
        exact (conforms_probe checker node reserved _ path).mono
          fun more outcome probe => .found ended.symm probe

end Conformance

/-- Two different suffixes make the names of a claim and of its job different. -/
theorem nextClaim_name_ne_nextJob_name
    {checker : Checker}
    {node : String}
    {world : World}
    (firstProper : Name.IsSuffix (world.suffixes world.drawn))
    (secondProper : Name.IsSuffix (world.suffixes (world.drawn + 1)))
    (different : world.suffixes world.drawn ≠ world.suffixes (world.drawn + 1))
    (basePath : Text) :
    (nextClaim checker node world).name ≠ (nextJob checker node world basePath).name :=
  fun same => different (Name.suffix_eq_of_probe_eq firstProper secondProper same)

/-- The exchanges of every check of a node are a word of the grammar of checks, for one claim
and for a job of another name that mounts it, and the check ends as that word does. -/
theorem checkNode_follows_protocol
    (checker : Checker)
    (node : String)
    (reserved : Reservation)
    (basePath : Option Text)
    (world : World)
    (firstProper : Name.IsSuffix (world.suffixes world.drawn))
    (secondProper : Name.IsSuffix (world.suffixes (world.drawn + 1)))
    (different : world.suffixes world.drawn ≠ world.suffixes (world.drawn + 1)) :
    ∃ (trace : List Exchange) (claim : Claim) (jobName : String) (job : Text → Job),
      ((checker.checkNode node reserved basePath).run world).2.history =
          world.history ++ trace ∧
        claim.name ≠ jobName ∧
        (∀ path, (job path).name = jobName ∧ (job path).claim = claim.name) ∧
        CheckRun checker node reserved claim job basePath trace
          ((checker.checkNode node reserved basePath).run world).1 := by
  obtain ⟨trace, follows, run⟩ := conforms_checkNode checker node reserved world basePath
  refine ⟨trace, nextClaim checker node world,
    Name.probe node (world.suffixes (world.drawn + 1)), nextJob checker node world,
    follows.history_eq, ?_, fun path => ⟨rfl, rfl⟩, run⟩
  exact nextClaim_name_ne_nextJob_name firstProper secondProper different []

/-- A checker with the waiting times that are used when none are given. -/
def plainChecker : Checker :=
  { limits := .usual
    image := "busybox:1.36"
    sourceClass := "source"
    destinationClass := "destination"
    namespaceName := defaultNamespace
    mountPath := String.ofList Report.defaultMountPath
    pollInterval := defaultPollInterval
    deletionTimeout := defaultTimeout
    jobTimeout := defaultTimeout }

/-- A cluster in which the first probe of a node called "node" goes well: its job has succeeded
at the second poll, and the volume behind its claim is gone at the second poll. -/
def roomyScript : Script :=
  { routes := fun
      | .readJobStatus =>
        [{ argument := none
           responses :=
            [.immediate (.answered none),
              .immediate (.answered (some { succeeded := 1, failed := 0 }))] }]
      | .readLog =>
        [{ argument := some Container.usage.name
           responses := [.immediate (.answered "/dev/sda2 90 52 38 58% /data")] },
          { argument := some Container.mounts.name
            responses := [.immediate (.answered "/dev/sda2 / xfs defaults 1 1")] }]
      | .listVolumes =>
        [{ argument := none
           responses :=
            [.immediate (.answered
              [{ name := "volume"
                 spec := some
                  { storageClass := some "destination"
                    storage := none
                    claim := some ⟨some "disk-free-node-aaaaa", some "default"⟩ } }])] }]
      | .readVolume =>
        [{ argument := none
           responses :=
            [.immediate (.answered ()), .immediate (.refused notFound (some "Not Found"))] }]
      | _ => [] }

theorem checkNode_follows_protocol_roomy :
    Name.IsSuffix (Name.suffix 0) ∧ Name.IsSuffix (Name.suffix 1) ∧
      Name.suffix 0 ≠ Name.suffix 1 ∧
      ∃ (trace : List Exchange) (claim : Claim) (jobName : String) (job : Text → Job),
        ((plainChecker.checkNode "node" (.bytes 1) (some [slash])).run
            (.start roomyScript)).2.history = (World.start roomyScript).history ++ trace ∧
          claim.name ≠ jobName ∧
          (∀ path, (job path).name = jobName ∧ (job path).claim = claim.name) ∧
          CheckRun plainChecker "node" (.bytes 1) claim job (some [slash]) trace
            ((plainChecker.checkNode "node" (.bytes 1) (some [slash])).run
              (.start roomyScript)).1 :=
  have firstProper : Name.IsSuffix (Name.suffix 0) := by decide
  have secondProper : Name.IsSuffix (Name.suffix 1) := by decide
  have different : Name.suffix 0 ≠ Name.suffix 1 := by decide
  ⟨firstProper, secondProper, different,
    checkNode_follows_protocol plainChecker "node" (.bytes 1) (some [slash]) (.start roomyScript)
      firstProper secondProper different⟩

end Probe
end Headroom
