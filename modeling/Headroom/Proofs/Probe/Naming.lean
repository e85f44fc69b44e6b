import Headroom.Proofs.Probe.Calls
import Headroom.Proofs.Probe.Visits
import Headroom.Proofs.Resource.Suffix

/-!
# The names of a survey

Each visit of a survey names its claim and its job by the two suffixes that it draws,
and creates and deletes nothing else.  Visits come one after the other, so that no two
of them draw the same suffix.

If the suffixes that are drawn are proper and differ, no name of one visit is a name of
another one, and in each visit the claim and the job have different names.
-/

namespace Headroom
namespace Cluster

/-- The methods by which claims and jobs are created and deleted. -/
def Method.changes : Method → Bool
  | .createClaim | .deleteClaim | .createJob | .deleteJob => true
  | _ => false

namespace Call

/-- The name of the claim that a call creates or deletes. -/
def claimName? : Call → Option String
  | .createClaim _ claim => some claim.name
  | .deleteClaim claim => claim.name
  | _ => none

/-- The name of the job that a call creates or deletes. -/
def jobName? : Call → Option String
  | .createJob _ job => some job.name
  | .deleteJob _ job => some job
  | _ => none

/-- Whatever a call creates or deletes is a certain claim or a certain job. -/
structure NamesOnly
    (call : Call)
    (claim : Claim)
    (job : Job) : Prop where
  claim_eq : ∀ name, call.claimName? = some name → name = claim.name
  job_eq : ∀ name, call.jobName? = some name → name = job.name

/-- A call that creates and deletes nothing names nothing. -/
theorem names_nothing
    {call : Call}
    (spares : call.method.changes = false) :
    call.claimName? = none ∧ call.jobName? = none := by
  cases call <;> first | exact ⟨rfl, rfl⟩ | cases spares

theorem NamesOnly.of_spares
    {call : Call}
    {claim : Claim}
    {job : Job}
    (spares : call.method.changes = false) :
    call.NamesOnly claim job := by
  obtain ⟨noClaim, noJob⟩ := names_nothing spares
  refine ⟨?_, ?_⟩
  · rw [noClaim]
    exact nofun
  · rw [noJob]
    exact nofun

end Call
end Cluster

namespace Probe

open Cluster Action

section Runs

variable {checker : Checker} {claim : Claim} {job : Job} {trace : List Exchange}

theorem MeasureRun.namesOnly
    {basePath : Text}
    {outcome : Except Failure Sample}
    (run : MeasureRun checker claim job basePath trace outcome) :
    ∀ exchange ∈ trace, exchange.call.NamesOnly claim job := by
  have spares : ∀ method ∈ [Method.readJobStatus, .listPods, .readLog],
      method.changes = false := by decide
  intro exchange present
  rcases run.call_cases exchange present with call | call | reads
  · rw [call]
    exact ⟨fun _ named => (Option.some.inj named).symm, nofun⟩
  · rw [call]
    exact ⟨nofun, fun _ named => (Option.some.inj named).symm⟩
  · exact .of_spares (spares _ reads)

theorem CleanupRun.namesOnly
    {outcome : Except Failure Unit}
    (run : CleanupRun checker claim job trace outcome) :
    ∀ exchange ∈ trace, exchange.call.NamesOnly claim job := by
  have spares : ∀ method ∈ [Method.listVolumes, .readVolume], method.changes = false := by decide
  intro exchange present
  rcases run.call_cases exchange present with call | call | reads
  · rw [call]
    exact ⟨nofun, fun _ named => (Option.some.inj named).symm⟩
  · rw [call]
    exact ⟨fun _ named => (Option.some.inj named).symm, nofun⟩
  · exact .of_spares (spares _ reads)

/-- A probe names its own claim and its own job. -/
theorem ProbeRun.namesOnly
    {node : String}
    {reserved : Reservation}
    {basePath : Text}
    {outcome : Except Failure Verdict}
    (run : ProbeRun checker node reserved basePath claim job trace outcome) :
    ∀ exchange ∈ trace, exchange.call.NamesOnly claim job := by
  cases run with
  | unread failed => simpa using .of_spares rfl
  | marked carried => simpa using .of_spares rfl
  | probed unmarked measurement cleanup =>
      intro exchange present
      rw [List.mem_cons, List.mem_append] at present
      rcases present with rfl | measured | cleaned
      · exact .of_spares rfl
      · exact measurement.namesOnly exchange measured
      · exact cleanup.namesOnly exchange cleaned

/-- A probe that creates or deletes anything has created its claim. -/
theorem ProbeRun.creates_claim_of_changes
    {node : String}
    {reserved : Reservation}
    {basePath : Text}
    {outcome : Except Failure Verdict}
    (run : ProbeRun checker node reserved basePath claim job trace outcome)
    (changes : ∃ exchange ∈ trace, exchange.call.method.changes = true) :
    ∃ exchange ∈ trace, exchange.call.method = .createClaim := by
  cases run with
  | unread failed => simp [Method.changes] at changes
  | marked carried => simp [Method.changes] at changes
  | probed unmarked measurement cleanup =>
      obtain ⟨exchange, present, created⟩ := measurement.creates_claim
      refine ⟨exchange, ?_, by rw [created]⟩
      exact List.mem_cons_of_mem _ (List.mem_append_left _ present)

end Runs

namespace Visit

/-- The names of the claims that a visit creates or deletes. -/
def claimNames (visit : Visit) : List String :=
  visit.trace.filterMap (·.call.claimName?)

/-- The names of the jobs that a visit creates or deletes. -/
def jobNames (visit : Visit) : List String :=
  visit.trace.filterMap (·.call.jobName?)

/-- All names of what a visit creates or deletes. -/
def names (visit : Visit) : List String :=
  visit.claimNames ++ visit.jobNames

/-- A visit that names anything creates or deletes something. -/
theorem exists_changes
    {visit : Visit}
    {name : String}
    (named : name ∈ visit.names) :
    ∃ exchange ∈ visit.trace, exchange.call.method.changes = true := by
  have changes {exchange : Exchange}
      (names : exchange.call.claimName? = some name ∨ exchange.call.jobName? = some name) :
      exchange.call.method.changes = true := by
    cases spares : exchange.call.method.changes with
    | true => rfl
    | false =>
        obtain ⟨noClaim, noJob⟩ := Call.names_nothing spares
        rw [noClaim, noJob] at names
        rcases names with impossible | impossible <;> cases impossible
  rcases List.mem_append.mp named with claim | job
  · obtain ⟨exchange, present, names⟩ := List.mem_filterMap.mp claim
    exact ⟨exchange, present, changes (.inl names)⟩
  · obtain ⟨exchange, present, names⟩ := List.mem_filterMap.mp job
    exact ⟨exchange, present, changes (.inr names)⟩

/-- A visit names its claim by the first suffix that it draws, and its job by the second one; if it
names anything it has drawn both. -/
structure NamesByDraws (visit : Visit) : Prop where
  claim_eq :
    ∀ name ∈ visit.claimNames,
      name = Name.probe visit.node (visit.before.suffixes visit.before.drawn)
  job_eq :
    ∀ name ∈ visit.jobNames,
      name = Name.probe visit.node (visit.before.suffixes (visit.before.drawn + 1))
  drawn_le : visit.names ≠ [] → visit.before.drawn + 2 ≤ visit.after.drawn

/-- Every name of a visit ends in a suffix that the visit draws. -/
theorem NamesByDraws.exists_draw
    {visit : Visit}
    (namesByDraws : visit.NamesByDraws)
    {name : String}
    (named : name ∈ visit.names) :
    ∃ draw, visit.before.drawn ≤ draw ∧ draw < visit.after.drawn ∧
      name = Name.probe visit.node (visit.before.suffixes draw) := by
  have drawn := namesByDraws.drawn_le (List.ne_nil_of_mem named)
  rcases List.mem_append.mp named with claim | job
  · exact ⟨visit.before.drawn, Nat.le_refl _, by omega, namesByDraws.claim_eq name claim⟩
  · exact ⟨visit.before.drawn + 1, by omega, by omega, namesByDraws.job_eq name job⟩

end Visit

section Visits

variable (checker : Checker) (reserved : Reservation) (basePath : Text)

theorem namesByDraws_visit
    (node : String)
    (world : World) :
    (visit checker reserved basePath node world).NamesByDraws := by
  obtain ⟨follows, run⟩ := checkRun_visit checker reserved basePath node world
  cases run with
  | given probe =>
  refine ⟨?_, ?_, ?_⟩
  · intro name named
    obtain ⟨exchange, present, call_names⟩ := List.mem_filterMap.mp named
    exact (probe.namesOnly exchange present).claim_eq name call_names
  · intro name named
    obtain ⟨exchange, present, call_names⟩ := List.mem_filterMap.mp named
    exact (probe.namesOnly exchange present).job_eq name call_names
  · intro named
    obtain ⟨name, present⟩ := List.exists_mem_of_ne_nil _ named
    have created := probe.creates_claim_of_changes (Visit.exists_changes present)
    exact drawn_le_of_created follows.history_eq created

/-- Checking a node in a survey draws what the visit draws, from the same suffixes. -/
theorem drawn_surveyNode
    (node : String)
    (world : World) :
    let after := ((checker.surveyNode reserved basePath node).run world).2
    after.drawn = (visit checker reserved basePath node world).after.drawn ∧
      after.suffixes = world.suffixes := by
  obtain ⟨records, ran⟩ := run_surveyNode checker reserved basePath node world
  obtain ⟨follows, -⟩ := checkRun_visit checker reserved basePath node world
  rw [ran]
  exact ⟨rfl, follows.suffixes_eq⟩

/-- Visits draw from the suffixes of the world, between its draws and those of the world that the
survey leaves. -/
theorem visits_drawn_within
    (nodes : List String)
    (world : World) :
    ∀ made ∈ visits checker reserved basePath nodes world,
      made.before.suffixes = world.suffixes ∧ world.drawn ≤ made.before.drawn ∧
        made.after.drawn ≤ ((checker.surveyAll reserved basePath nodes).run world).2.drawn := by
  induction nodes generalizing world with
  | nil => simp [visits_nil]
  | cons node others inductionHypothesis =>
      obtain ⟨drawn_eq, suffixes_eq⟩ := drawn_surveyNode checker reserved basePath node world
      obtain ⟨follows, -⟩ := checkRun_visit checker reserved basePath node world
      obtain ⟨after, rest, grown⟩ := run_surveyAll checker reserved basePath others
        ((checker.surveyNode reserved basePath node).run world).2
      intro made present
      rw [world_surveyAll_cons]
      rcases List.mem_cons.mp present with rfl | later
      · refine ⟨rfl, Nat.le_refl _, ?_⟩
        rw [← drawn_eq, rest]
        exact grown.drawn_le
      · obtain ⟨same, within, bounded⟩ := inductionHypothesis _ made later
        refine ⟨same.trans suffixes_eq, ?_, bounded⟩
        rw [drawn_eq] at within
        exact Nat.le_trans follows.drawn_le within

/-- Each visit draws before those after it. -/
theorem visits_pairwise_drawn
    (nodes : List String)
    (world : World) :
    (visits checker reserved basePath nodes world).Pairwise fun first second =>
      first.after.drawn ≤ second.before.drawn := by
  induction nodes generalizing world with
  | nil => exact .nil
  | cons node others inductionHypothesis =>
      rw [visits_cons]
      refine .cons ?_ (inductionHypothesis _)
      intro made later
      obtain ⟨drawn_eq, -⟩ := drawn_surveyNode checker reserved basePath node world
      obtain ⟨-, within, -⟩ := visits_drawn_within checker reserved basePath others _ made later
      rwa [drawn_eq] at within

end Visits

/-- The names of what visits create and delete do not collide: in each visit there is one name of
a claim and another one of a job, and no name of a visit is a name of another visit. -/
structure NamesApart (made : List Visit) : Prop where
  one_claim : ∀ visit ∈ made, ∀ name ∈ visit.claimNames, ∀ other ∈ visit.claimNames, name = other
  one_job : ∀ visit ∈ made, ∀ name ∈ visit.jobNames, ∀ other ∈ visit.jobNames, name = other
  claim_ne_job : ∀ visit ∈ made, ∀ claim ∈ visit.claimNames, ∀ job ∈ visit.jobNames, claim ≠ job
  disjoint : made.Pairwise fun first second => ∀ name ∈ first.names, name ∉ second.names

/-- If the suffixes that are drawn meanwhile are proper and differ, the names of visits do not
collide. -/
theorem namesApart_visits
    {checker : Checker}
    {reserved : Reservation}
    {basePath : Text}
    {nodes : List String}
    {world : World}
    (apart :
      Name.DrawnApart world.suffixes world.drawn
        ((checker.surveyAll reserved basePath nodes).run world).2.drawn) :
    NamesApart (visits checker reserved basePath nodes world) := by
  have within := visits_drawn_within checker reserved basePath nodes world
  have byDraws (made : Visit) (visited : made ∈ visits checker reserved basePath nodes world) :
      made.NamesByDraws := by
    rw [visits_checked checker reserved basePath nodes world made visited]
    exact namesByDraws_visit checker reserved basePath made.node made.before
  refine { one_claim := ?_, one_job := ?_, claim_ne_job := ?_, disjoint := ?_ }
  · intro made visited name named other otherNamed
    rw [(byDraws made visited).claim_eq name named,
      (byDraws made visited).claim_eq other otherNamed]
  · intro made visited name named other otherNamed
    rw [(byDraws made visited).job_eq name named, (byDraws made visited).job_eq other otherNamed]
  · intro made visited claim claimNamed job jobNamed
    -- Both suffixes of the visit are among those that are drawn, for it names something.
    obtain ⟨same, begins, ends⟩ := within made visited
    have named : made.names ≠ [] := List.ne_nil_of_mem (List.mem_append_left _ claimNamed)
    have drawn := (byDraws made visited).drawn_le named
    rw [(byDraws made visited).claim_eq claim claimNamed,
      (byDraws made visited).job_eq job jobNamed, same]
    exact apart.probe_ne begins (Nat.lt_succ_self _) (by omega) made.node made.node
  · refine (visits_pairwise_drawn checker reserved basePath nodes world).imp_of_mem ?_
    intro first second firstVisited secondVisited before name named otherNamed
    -- Both names end in suffixes that were drawn, that of the first visit before the other one.
    obtain ⟨same, begins, -⟩ := within first firstVisited
    obtain ⟨alsoSame, -, ends⟩ := within second secondVisited
    obtain ⟨draw, drawn, earlier, name_eq⟩ := (byDraws first firstVisited).exists_draw named
    obtain ⟨other, later, otherDrawn, other_eq⟩ :=
      (byDraws second secondVisited).exists_draw otherNamed
    rw [same] at name_eq
    rw [alsoSame] at other_eq
    have different := apart.probe_ne (Nat.le_trans begins drawn)
      (Nat.lt_of_lt_of_le earlier (Nat.le_trans before later))
      (Nat.lt_of_lt_of_le otherDrawn ends) first.node second.node
    exact different (name_eq.symm.trans other_eq)

/-- The opening of a survey creates and deletes nothing. -/
theorem OpeningRun.spares
    {checker : Checker}
    {reserved : Option Reservation}
    {trace : List Exchange}
    {outcome : Except Failure (Text × Reservation)}
    (run : OpeningRun checker reserved trace outcome) :
    ∀ exchange ∈ trace, exchange.call.method.changes = false := by
  have listing {listing : List Exchange} {amount : Except Failure Reservation}
      (listed : ListingRun checker reserved listing amount) :
      ∀ exchange ∈ listing, exchange.call.method.changes = false := by
    intro exchange present
    rw [listed.call_eq exchange present]
    rfl
  cases run with
  | unresolved => simp [Method.changes]
  | unlisted listed => simpa [Method.changes] using listing listed
  | opened found listed => simpa [Method.changes] using listing listed

/-- However a survey ends, the names of what it creates and deletes do not collide if the suffixes
that it draws are proper and differ; for a name ends in its suffix, whatever the node is.  Numbered
suffixes are proper, and they differ as long as there are new ones. -/
theorem survey_names_apart
    (checker : Checker)
    (nodes : List String)
    (reserved : Option Reservation)
    (atOnce : Bool)
    {world after : World}
    {outcome : Except Failure Findings}
    (ran : (checker.survey nodes reserved atOnce).run world = (outcome, after))
    (apart : Name.DrawnApart world.suffixes world.drawn after.drawn) :
    (∀ node suffix, Name.IsSuffix suffix → suffix <:+ (Name.probe node suffix).toList) ∧
      (∀ first last, last ≤ 36 ^ 5 → Name.DrawnApart Name.suffix first last) ∧
      ∃ preliminaries made,
        after.history = world.history ++ preliminaries ++ made.flatMap Visit.trace ∧
          (∀ exchange ∈ preliminaries, exchange.call.method.changes = false) ∧
          made.map (·.node) <+: nodes ∧
          (∃ amount basePath,
            ∀ one ∈ made, one = visit checker amount basePath one.node one.before) ∧
          NamesApart made := by
  refine ⟨?_, fun first last available => Name.drawnApart_suffix available, ?_⟩
  · intro node suffix proper
    rw [Name.probe, String.toList_ofList]
    exact Name.suffix_shorten_unshortened proper node.toList
  obtain ⟨preliminaries, follows, run⟩ := conforms_opening checker nodes reserved world
  cases opened : (opening checker nodes reserved).run world with
  | mk parts begun =>
  rw [opened] at follows run
  refine ⟨preliminaries, ?_⟩
  match parts with
  | .error failure =>
      rw [run_survey_of_opening_error atOnce opened] at ran
      cases ran
      refine ⟨[], ?_, run.spares, List.nil_prefix, ⟨.unstated, [], by simp⟩, ?_⟩
      · simpa using follows.history_eq
      · exact ⟨by simp, by simp, by simp, .nil⟩
  | .ok (basePath, amount) =>
      obtain ⟨-, ⟨asked, begins, left⟩, -⟩ := run_survey_of_opening atOnce opened
      rw [ran] at left
      obtain ⟨later, all, grown⟩ := run_surveyAll checker amount basePath asked begun
      have after_eq : after = later := left.trans (by rw [all])
      refine ⟨visits checker amount basePath asked begun, ?_, run.spares, ?_,
        ⟨amount, basePath, visits_checked checker amount basePath asked begun⟩, ?_⟩
      · rw [after_eq, grown.history_eq, follows.history_eq]
      · rwa [visits_map_node]
      · refine namesApart_visits ?_
        rw [all, ← after_eq, follows.suffixes_eq]
        exact apart.of_le follows.drawn_le

theorem survey_names_apart_mixed :
    Name.DrawnApart (World.start mixedScript).suffixes (World.start mixedScript).drawn
        (mixedSurvey false).2.drawn ∧
      (∀ node suffix, Name.IsSuffix suffix → suffix <:+ (Name.probe node suffix).toList) ∧
        (∀ first last, last ≤ 36 ^ 5 → Name.DrawnApart Name.suffix first last) ∧
        ∃ preliminaries made,
          (mixedSurvey false).2.history =
              (World.start mixedScript).history ++ preliminaries ++ made.flatMap Visit.trace ∧
            (∀ exchange ∈ preliminaries, exchange.call.method.changes = false) ∧
            made.map (·.node) <+: ["node", "other", "node"] ∧
            (∃ amount basePath,
              ∀ one ∈ made, one = visit plainChecker amount basePath one.node one.before) ∧
            NamesApart made := by
  have available : (mixedSurvey false).2.drawn ≤ 36 ^ 5 := by decide +kernel
  have apart : Name.DrawnApart (World.start mixedScript).suffixes (World.start mixedScript).drawn
      (mixedSurvey false).2.drawn :=
    Name.drawnApart_suffix available
  have ran : mixedSurvey false = ((mixedSurvey false).1, (mixedSurvey false).2) := by
    rw [Prod.eta]
  exact ⟨apart, survey_names_apart plainChecker ["node", "other", "node"] (some (.bytes 1)) false
    ran apart⟩

end Probe
end Headroom
