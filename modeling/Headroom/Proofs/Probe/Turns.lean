import Headroom.Proofs.Probe.Complaints
import Headroom.Proofs.Probe.Timeline

/-!
# The turns of claims

Claims that are to be deleted have their turns one after the other, each in the world
that the one before it has left.  The turns of a list of claims are computed here from
the world in which the first one begins.

After a turn that fails for a cause the next claim has its turn, unless the cause is
that the run is cancelled.  A fault and an impasse are the end of it as well.
-/

namespace Headroom

/-- Whether a failure to deal with one claim keeps the others from having their turns. -/
def Failure.stops : Failure → Bool
  | .check error _ => error = .single .cancelled
  | .foreign _ => true
  | .impasse _ => true

namespace Probe

open Cluster Action

/-- A claim that is dealt with, and the worlds around that. -/
structure Turn where
  claim : Reference
  before : World
  ending : Except Failure Unit
  after : World

namespace Turn

/-- The exchanges of a turn. -/
def trace (turn : Turn) : List Exchange :=
  turn.after.history.drop turn.before.history.length

/-- Whether the next claim has its turn after this one. -/
def goesOn (turn : Turn) : Bool :=
  match turn.ending with
  | .ok () => true
  | .error failure => !failure.stops

/-- The cause for which a turn failed, if it did so for a cause. -/
def cause? (turn : Turn) : Option Cause :=
  match turn.ending with
  | .error (.check (.single cause) _) => some cause
  | _ => none

/-- The world in which the next turn begins, the cause of this one being recorded. -/
def left (turn : Turn) : World :=
  match turn.cause? with
  | some cause => ((note .error cause.message).run turn.after).2
  | none => turn.after

end Turn

section Turns

variable (reclaimer : Reclaimer)

/-- The turn of a claim in a world. -/
def turn
    (claim : Reference)
    (world : World) : Turn :=
  { claim
    before := world
    ending := ((reclaimer.deleteClaim claim).run world).1
    after := ((reclaimer.deleteClaim claim).run world).2 }

/-- The turns of claims one after the other, up to one after which they do not go on. -/
def turns : List Reference → World → List Turn
  | [], _ => []
  | claim :: others, world =>
    let made := turn reclaimer claim world
    if made.goesOn then made :: turns others made.left else [made]

theorem turns_nil (world : World) : turns reclaimer [] world = [] := rfl

theorem turns_cons
    (claim : Reference)
    (others : List Reference)
    (world : World) :
    turns reclaimer (claim :: others) world =
      if (turn reclaimer claim world).goesOn then
        turn reclaimer claim world :: turns reclaimer others (turn reclaimer claim world).left
      else [turn reclaimer claim world] := rfl

/-- Every turn is that of its claim in the world in which it begins. -/
theorem turns_made
    (claims : List Reference)
    (world : World) :
    ∀ made ∈ turns reclaimer claims world, made = turn reclaimer made.claim made.before := by
  induction claims generalizing world with
  | nil => simp [turns_nil]
  | cons claim others inductionHypothesis =>
      intro made present
      rw [turns_cons] at present
      split at present
      · rcases List.mem_cons.mp present with rfl | later
        · rfl
        · exact inductionHypothesis _ made later
      · rw [List.mem_singleton.mp present]
        rfl

/-- The exchanges of a turn are those by which it adds to the history, and they reclaim its
claim. -/
theorem reclaimRun_turn
    (claim : Reference)
    (world : World) :
    let made := turn reclaimer claim world
    Follows world made.trace made.after ∧ ReclaimRun claim made.trace made.ending := by
  obtain ⟨trace, follows, run⟩ := conforms_deleteClaim reclaimer claim world
  have trace_eq : (turn reclaimer claim world).trace = trace := by
    rw [Turn.trace, turn, follows.history_eq, List.drop_left]
  dsimp only
  rw [trace_eq]
  exact ⟨follows, run⟩

/-- The exchanges of every turn reclaim its claim. -/
theorem turns_run
    (claims : List Reference)
    (world : World) :
    ∀ made ∈ turns reclaimer claims world,
      Follows made.before made.trace made.after ∧
        ReclaimRun made.claim made.trace made.ending := by
  intro made listed
  rw [turns_made reclaimer claims world made listed]
  exact reclaimRun_turn reclaimer made.claim made.before

/-- A turn fails as cancelled only in a run that is cancelled. -/
theorem isCancelled_of_turns
    (claims : List Reference)
    (world : World)
    {made : Turn}
    (listed : made ∈ turns reclaimer claims world)
    (ended : made.ending = .error (.of .cancelled)) :
    made.after.isCancelled = true := by
  rw [turns_made reclaimer claims world made listed] at ended ⊢
  exact heedsCancellation_deleteClaim reclaimer made.claim made.before ended

/-- A turn after which the next one comes ends well or fails for its cause. -/
theorem ending_eq_of_goesOn
    {made : Turn}
    (run : ReclaimRun made.claim made.trace made.ending)
    (goesOn : made.goesOn = true) :
    made.ending = made.cause?.elim (.ok ()) fun cause => .error (.of cause) := by
  unfold Turn.goesOn at goesOn
  unfold Turn.cause?
  match ended : made.ending with
  | .ok () => rfl
  | .error (.check (.single cause) earlier) =>
      rw [ended] at run
      obtain rfl : earlier = [] := run.isOriginal
      rfl
  | .error (.check (.cleanup causes) earlier) =>
      rw [ended] at run
      exact run.isOriginal.elim
  | .error (.foreign fault) =>
      rw [ended] at goesOn
      cases goesOn
  | .error (.impasse reason) =>
      rw [ended] at goesOn
      cases goesOn

end Turns

/-- How the turns of claims end, and the world that they leave: with the causes of those that
failed, or with the failure of the last one, which keeps the others from having theirs. -/
inductive TurnsEnd
    (claims : List Reference)
    (made : List Turn)
    (after : World) :
    Except Failure (List Cause) → Prop
  | done
      (all : made.map (·.claim) = claims)
      (wentOn : ∀ turn ∈ made, turn.goesOn = true) :
      TurnsEnd claims made after (.ok (made.filterMap Turn.cause?))
  | stopped
      {earlier : List Turn}
      {last : Turn}
      {failure : Failure}
      (made_eq : made = earlier ++ [last])
      (begun : made.map (·.claim) <+: claims)
      (wentOn : ∀ turn ∈ earlier, turn.goesOn = true)
      (ended : last.ending = .error failure)
      (stops : failure.stops = true)
      (after_eq : last.after = after) :
      TurnsEnd claims made after (.error failure)

section Endings

variable
  {claims others : List Reference}
  {made : List Turn}
  {first : Turn}
  {after : World}
  {outcome : Except Failure (List Cause)}

/-- A turn after which the next one comes adds its cause, if it has one, to those that follow. -/
theorem TurnsEnd.cons
    (goesOn : first.goesOn = true)
    (rest : TurnsEnd others made after outcome) :
    TurnsEnd (first.claim :: others) (first :: made) after
      (outcome.map fun causes => first.cause?.toList ++ causes) := by
  cases rest with
  | done all wentOn =>
      have causes_eq :
          first.cause?.toList ++ made.filterMap Turn.cause? =
            (first :: made).filterMap Turn.cause? := by
        cases caused : first.cause? <;> simp [caused]
      rw [Except.map, causes_eq]
      exact .done (by rw [List.map_cons, all]) (List.forall_mem_cons.mpr ⟨goesOn, wentOn⟩)
  | @stopped earlier last failure made_eq begun wentOn ended stops after_eq =>
      subst made_eq
      have split_eq : first :: (earlier ++ [last]) = (first :: earlier) ++ [last] := rfl
      exact .stopped split_eq
        (List.cons_prefix_cons.mpr ⟨rfl, begun⟩)
        (List.forall_mem_cons.mpr ⟨goesOn, wentOn⟩) ended stops after_eq

/-- A turn may be the last one. -/
theorem TurnsEnd.last
    {failure : Failure}
    (ended : first.ending = .error failure)
    (stops : failure.stops = true) :
    TurnsEnd (first.claim :: others) [first] first.after (.error failure) :=
  have split_eq : [first] = [] ++ [first] := rfl
  .stopped split_eq (List.prefix_append [first.claim] others)
    (List.forall_mem_nil _) ended stops rfl

/-- The claims have their turns in order, up to the last one that has one. -/
theorem TurnsEnd.begun
    (ends : TurnsEnd claims made after outcome) :
    made.map (·.claim) <+: claims := by
  cases ends with
  | done all wentOn => exact all ▸ List.prefix_refl _
  | stopped made_eq begun wentOn ended stops after_eq => exact begun

/-- Turns are stopped only if the run is cancelled, if a call breaks off, or in an impasse. -/
theorem TurnsEnd.all_of_uncancelled
    (ends : TurnsEnd claims made after outcome)
    (uncancelled : after.isCancelled = false)
    (finite : ∀ reason, outcome ≠ .error (.impasse reason))
    (runs : ∀ turn ∈ made, ReclaimRun turn.claim turn.trace turn.ending)
    (uncrashed : ∀ turn ∈ made, ∀ exchange ∈ turn.trace, exchange.outcome.crashes = false)
    (heeds : ∀ turn ∈ made,
      turn.ending = .error (.of .cancelled) → turn.after.isCancelled = true) :
    made.map (·.claim) = claims ∧ (∀ turn ∈ made, turn.goesOn = true) ∧
      outcome = .ok (made.filterMap Turn.cause?) := by
  cases ends with
  | done all wentOn => exact ⟨all, wentOn, rfl⟩
  | @stopped earlier last failure made_eq begun wentOn ended stops after_eq =>
      exfalso
      have listed : last ∈ made := by simp [made_eq]
      have run := runs last listed
      rw [ended] at run
      match failure with
      | .check error others =>
          -- Nothing but a cancellation stops the turns for a cause.
          obtain rfl : error = .single .cancelled := by simpa [Failure.stops] using stops
          obtain rfl : others = [] := run.isOriginal
          have isCancelled := heeds last listed ended
          rw [after_eq, uncancelled] at isCancelled
          cases isCancelled
      | .foreign fault =>
          obtain ⟨exchange, present, crashes⟩ := run.crashes_of_foreign
          rw [uncrashed last listed exchange present] at crashes
          cases crashes
      | .impasse reason => exact finite reason rfl

end Endings

/-- A turn after which the next one does not come has a failure that stops them. -/
theorem exists_stops_of_not_goesOn
    {made : Turn}
    (last : made.goesOn = false) :
    ∃ failure, made.ending = .error failure ∧ failure.stops = true := by
  unfold Turn.goesOn at last
  split at last
  · cases last
  · rename_i failure ended
    exact ⟨failure, ended, by simpa using last⟩

/-- The next turn begins where the exchanges of the one before it have led. -/
theorem follows_left
    {made : Turn}
    {world : World}
    {trace : List Exchange}
    (follows : Follows world trace made.after) :
    Follows world trace made.left := by
  unfold Turn.left
  split
  · exact { follows with }
  · exact follows

section Runs

variable {reclaimer : Reclaimer} {claim : Reference} {world : World}

/-- If the turns go on after the first one, the others are dealt with where it leads, and its cause
comes before theirs. -/
theorem run_deleteEach_of_goesOn
    (others : List Reference)
    (goesOn : (turn reclaimer claim world).goesOn = true) :
    let first := turn reclaimer claim world
    let rest := (reclaimer.deleteEach others).run first.left
    (reclaimer.deleteEach (claim :: others)).run world =
      (rest.1.map fun causes => first.cause?.toList ++ causes, rest.2) := by
  obtain ⟨trace, -, run⟩ := conforms_deleteClaim reclaimer claim world
  unfold turn at goesOn ⊢
  rw [Reclaimer.deleteEach, run_bind, run_attempt]
  generalize (reclaimer.deleteClaim claim).run world = ran at goesOn run
  obtain ⟨ending, after⟩ := ran
  dsimp only at goesOn run ⊢
  match ending, run with
  | .ok (), _ =>
      dsimp only [Turn.left, Turn.cause?]
      rcases (reclaimer.deleteEach others).run after with ⟨_ | _, later⟩ <;> rfl
  | .error (.check (.single cause) earlier), _ =>
      have counted : cause ≠ .cancelled := by
        simpa [Turn.goesOn, Failure.stops] using goesOn
      dsimp only [Turn.left, Turn.cause?]
      obtain ⟨records, noted⟩ := exists_run_note .error cause.message after
      rw [if_neg counted, run_bind, noted]
      dsimp only
      rw [run_bind]
      rcases (reclaimer.deleteEach others).run { after with records } with ⟨_ | _, later⟩ <;> rfl
  | .error (.check (.cleanup causes) earlier), run => exact run.isOriginal.elim
  | .error (.foreign fault), _ => cases goesOn
  | .error (.impasse reason), _ => cases goesOn

/-- If a turn stops the turns, the others are not dealt with. -/
theorem run_deleteEach_of_stops
    {failure : Failure}
    (others : List Reference)
    (ended : (turn reclaimer claim world).ending = .error failure)
    (stops : failure.stops = true) :
    (reclaimer.deleteEach (claim :: others)).run world =
      (.error failure, (turn reclaimer claim world).after) := by
  unfold turn at ended ⊢
  rw [Reclaimer.deleteEach, run_bind, run_attempt]
  generalize (reclaimer.deleteClaim claim).run world = ran at ended
  obtain ⟨ending, after⟩ := ran
  dsimp only at ended ⊢
  subst ended
  match failure with
  | .check (.single cause) earlier =>
      have isCancelled : cause = .cancelled := by simpa [Failure.stops] using stops
      dsimp only
      rw [if_pos isCancelled]
      rfl
  | .check (.cleanup causes) earlier => cases stops
  | .foreign fault => rfl
  | .impasse reason => rfl

/-- Dealing with claims is giving them their turns. -/
theorem run_deleteEach
    (reclaimer : Reclaimer)
    (claims : List Reference)
    (world : World) :
    Follows world ((turns reclaimer claims world).flatMap Turn.trace)
        ((reclaimer.deleteEach claims).run world).2 ∧
      TurnsEnd claims (turns reclaimer claims world)
        ((reclaimer.deleteEach claims).run world).2
        ((reclaimer.deleteEach claims).run world).1 := by
  induction claims generalizing world with
  | nil => exact ⟨.refl world, .done rfl (by simp [turns_nil])⟩
  | cons claim others inductionHypothesis =>
      obtain ⟨follows, -⟩ := reclaimRun_turn reclaimer claim world
      rw [turns_cons]
      cases goesOn : (turn reclaimer claim world).goesOn with
      | true =>
          obtain ⟨continued, rest⟩ := inductionHypothesis (turn reclaimer claim world).left
          rw [run_deleteEach_of_goesOn others goesOn, if_pos rfl, List.flatMap_cons]
          exact ⟨(follows_left follows).trans continued, rest.cons goesOn⟩
      | false =>
          obtain ⟨failure, ended, stops⟩ := exists_stops_of_not_goesOn goesOn
          rw [run_deleteEach_of_stops others ended stops, if_neg nofun, List.flatMap_singleton]
          exact ⟨follows, .last ended stops⟩

/-- Deleting claims is giving them their turns and reporting what was gathered. -/
theorem run_deleteClaims
    (reclaimer : Reclaimer)
    (claims : List Reference)
    (world : World) :
    (reclaimer.deleteClaims claims).run world =
      (((reclaimer.deleteEach claims).run world).1.bind gathered,
        ((reclaimer.deleteEach claims).run world).2) := by
  rw [Reclaimer.deleteClaims, run_bind]
  rcases (reclaimer.deleteEach claims).run world with ⟨failure | causes, after⟩
  · rfl
  · match causes with
    | [] => rfl
    | [cause] => rfl
    | first :: second :: others => rfl

/-- The exchanges by which claims are deleted are those of their turns. -/
theorem trace_eq_turns
    {reclaimer : Reclaimer}
    {claims : List Reference}
    {world : World}
    {trace : List Exchange}
    (grown :
      ((reclaimer.deleteClaims claims).run world).2.history = world.history ++ trace) :
    trace = (turns reclaimer claims world).flatMap Turn.trace := by
  rw [run_deleteClaims] at grown
  exact List.append_cancel_left
    (grown.symm.trans (run_deleteEach reclaimer claims world).1.history_eq)

/-- In an orderly cluster every claim has its turn, unless the run is cancelled or in an
impasse. -/
theorem turns_of_uncancelled
    {reclaimer : Reclaimer}
    {claims : List Reference}
    {world : World}
    (orderly : world.script.NeverCrashes)
    (uncancelled : ((reclaimer.deleteClaims claims).run world).2.isCancelled = false)
    (finite : ∀ reason,
      ((reclaimer.deleteClaims claims).run world).1 ≠ .error (.impasse reason)) :
    let made := turns reclaimer claims world
    made.map (·.claim) = claims ∧ (∀ turn ∈ made, turn.goesOn = true) ∧
      ((reclaimer.deleteClaims claims).run world).1 = gathered (made.filterMap Turn.cause?) := by
  rw [run_deleteClaims] at uncancelled finite ⊢
  obtain ⟨follows, ends⟩ := run_deleteEach reclaimer claims world
  have passable (reason : Impasse) :
      ((reclaimer.deleteEach claims).run world).1 ≠ .error (.impasse reason) :=
    fun collected => finite reason (by rw [collected]; rfl)
  have runs (turn : Turn) (listed : turn ∈ turns reclaimer claims world) :
      ReclaimRun turn.claim turn.trace turn.ending :=
    (turns_run reclaimer claims world turn listed).2
  have uncrashed (turn : Turn) (listed : turn ∈ turns reclaimer claims world) :
      ∀ exchange ∈ turn.trace, exchange.outcome.crashes = false :=
    fun exchange present =>
      follows.crashes_eq orderly (List.mem_flatMap.mpr ⟨turn, listed, present⟩)
  obtain ⟨all, wentOn, collected⟩ :=
    ends.all_of_uncancelled uncancelled passable runs uncrashed fun turn listed =>
      isCancelled_of_turns reclaimer claims world listed
  exact ⟨all, wentOn, by rw [collected]; rfl⟩

end Runs
end Probe
end Headroom
