import Headroom.Probe.Reclaim
import Headroom.Proofs.Probe.Polling

/-!
# Runs that reclaim volumes

The volumes are listed, the claim is deleted, and the first volume that was bound
to it is polled until it is gone.  Each of these steps is taken only if those
before it went well.

A list of claims is dealt with claim by claim.  The causes for which claims could
not be deleted are gathered, and a run over a single claim ends as that claim does.
-/

namespace Headroom
namespace Probe

open Cluster Action

/-- What the outcome of reading a volume means to somebody who waits until it is gone. -/
def absence (volume : String) : Meaning Unit (.readVolume volume) :=
  fun reply =>
    match requestedIfFound (.readVolume volume) reply with
    | .ok (some ()) => .ok none
    | .ok none => .ok (some ())
    | .error failure => .error failure

section Absence

variable {volume : String} {reply : Outcome Unit}

/-- A volume is waited for further exactly while it is read. -/
theorem absence_eq_none_iff :
    absence volume reply = .ok none ↔ reply = .answered () := by
  cases reply with
  | refused status reason =>
      by_cases absent : status = notFound <;> simp [absence, requestedIfFound, absent]
  | _ => simp [absence, requestedIfFound]

/-- A volume is gone exactly when it is not found any more. -/
theorem absence_eq_some_iff :
    absence volume reply = .ok (some ()) ↔ ∃ reason, reply = .refused notFound reason := by
  cases reply with
  | refused status reason =>
      by_cases absent : status = notFound <;> simp [absence, requestedIfFound, absent]
  | _ => simp [absence, requestedIfFound]

theorem isOriginal_of_absence
    {failure : Failure}
    (broken : absence volume reply = .error failure) :
    failure.IsOriginal := by
  unfold absence at broken
  split at broken
  · cases broken
  · cases broken
  · rename_i other failed
    cases broken
    exact isOriginal_of_requestedIfFound failed

/-- Reading a volume fails as any request does. -/
theorem absence_error_cases
    {failure : Failure}
    (broken : absence volume reply = .error failure) :
    (∃ reason, failure = .of (.requestFailed (.readVolume volume) reason)) ∨
      ∃ text, failure = .foreign (.crashed text) := by
  unfold absence at broken
  split at broken
  · cases broken
  · cases broken
  · rename_i other failed
    cases broken
    exact requestedIfFound_error_cases failed

end Absence

/-- Asking whether a volume is gone is reading it. -/
theorem asks_askGone (volume : String) :
    Asks (Reclaimer.askGone volume) (.readVolume volume) (absence volume) := by
  intro world
  unfold Reclaimer.askGone
  refine (conforms_requestIfFound (.readVolume volume) world).bind ?_ ?_
  · rintro trace failure ⟨reply, rfl, ended⟩
    exact ⟨reply, rfl, by simp [absence, ← ended]⟩
  · rintro trace found after - ⟨reply, rfl, ended⟩
    cases found with
    | some present => exact conforms_pure ⟨reply, rfl, by simp [absence, ← ended]⟩
    | none =>
        exact conforms_note_bind fun later =>
          conforms_pure ⟨reply, rfl, by simp [absence, ← ended]⟩

/-- The exchanges by which one claim is reclaimed, and the end of that. -/
inductive ReclaimRun (claim : Reference) : List Exchange → Except Failure Unit → Prop
  | unlisted
      {reply : Outcome (List Volume)}
      {failure : Failure}
      (failed : requested .listVolumes reply = .error failure) :
      ReclaimRun claim [⟨.listVolumes, reply⟩] (.error failure)
  | kept
      {volumes : List Volume}
      {reply : Outcome Unit}
      {failure : Failure}
      (failed : requestedIfFound (.deleteClaim claim) reply = .error failure) :
      ReclaimRun claim [⟨.listVolumes, .answered volumes⟩, ⟨.deleteClaim claim, reply⟩]
        (.error failure)
  | unbound
      {volumes : List Volume}
      {reply : Outcome Unit}
      (gone : reply.IsGone)
      (noVolume : volumes.find? (isBoundTo claim) = none) :
      ReclaimRun claim [⟨.listVolumes, .answered volumes⟩, ⟨.deleteClaim claim, reply⟩] (.ok ())
  | bound
      {volumes : List Volume}
      {reply : Outcome Unit}
      {volume : Volume}
      {trace : List Exchange}
      {outcome : Except Failure Unit}
      (gone : reply.IsGone)
      (first : volumes.find? (isBoundTo claim) = some volume)
      (wait : PollRun (.readVolume volume.name) (absence volume.name)
        (.deletionTimeout volume.name) trace outcome) :
      ReclaimRun claim
        (⟨.listVolumes, .answered volumes⟩ :: ⟨.deleteClaim claim, reply⟩ :: trace) outcome

theorem conforms_waitDeletion
    (reclaimer : Reclaimer)
    (volume : String)
    (world : World) :
    Conforms (reclaimer.waitDeletion volume) world
      (PollRun (.readVolume volume) (absence volume) (.deletionTimeout volume)) :=
  conforms_note_bind fun later => conforms_pollFor (asks_askGone volume) _ later

theorem conforms_deleteClaim
    (reclaimer : Reclaimer)
    (claim : Reference)
    (world : World) :
    Conforms (reclaimer.deleteClaim claim) world (ReclaimRun claim) := by
  unfold Reclaimer.deleteClaim findVolume
  simp only [bind_assoc, pure_bind]
  refine conforms_request_bind (fun reply failure failed => .unlisted failed) ?_
  intro volumes
  refine conforms_note_bind fun noted => ?_
  refine conforms_discard_bind (fun reply failure failed => .kept failed) ?_
  intro reply gone after
  cases found : volumes.find? (isBoundTo claim) with
  | none => exact ⟨[], { Follows.refl after with }, .unbound gone found⟩
  | some volume =>
      exact (conforms_waitDeletion reclaimer volume.name after).mono
        fun trace outcome wait => .bound gone found wait

/-- What stands in the way of a claim is original. -/
theorem ReclaimRun.isOriginal
    {claim : Reference}
    {trace : List Exchange}
    {failure : Failure}
    (run : ReclaimRun claim trace (.error failure)) :
    failure.IsOriginal := by
  cases run with
  | unlisted failed => exact isOriginal_of_requested failed
  | kept failed => exact isOriginal_of_requestedIfFound failed
  | bound gone first wait =>
      exact wait.isOriginal (fun reply other broken => isOriginal_of_absence broken) rfl

/-- The exchanges by which claims are dealt with one after the other, and the causes that
stood in the way. -/
inductive EachRun : List Reference → List Exchange → Except Failure (List Cause) → Prop
  | none : EachRun [] [] (.ok [])
  | gone
      {claim : Reference}
      {others : List Reference}
      {trace more : List Exchange}
      {outcome : Except Failure (List Cause)}
      (first : ReclaimRun claim trace (.ok ()))
      (rest : EachRun others more outcome) :
      EachRun (claim :: others) (trace ++ more) outcome
  | kept
      {claim : Reference}
      {others : List Reference}
      {cause : Cause}
      {trace more : List Exchange}
      {outcome : Except Failure (List Cause)}
      (first : ReclaimRun claim trace (.error (.of cause)))
      (goesOn : cause ≠ .cancelled)
      (rest : EachRun others more outcome) :
      EachRun (claim :: others) (trace ++ more) (outcome.map (cause :: ·))
  | stopped
      {claim : Reference}
      {others : List Reference}
      {failure : Failure}
      {trace : List Exchange}
      (first : ReclaimRun claim trace (.error failure))
      (stops : ∀ cause, failure = .of cause → cause = .cancelled) :
      EachRun (claim :: others) trace (.error failure)

theorem conforms_deleteEach
    (reclaimer : Reclaimer)
    (claims : List Reference)
    (world : World) :
    Conforms (reclaimer.deleteEach claims) world (EachRun claims) := by
  induction claims generalizing world with
  | nil => exact conforms_pure .none
  | cons claim others inductionHypothesis =>
      unfold Reclaimer.deleteEach
      refine (conforms_deleteClaim reclaimer claim world).attempt.bind ?_ ?_
      · rintro trace failure ⟨result, impossible, _⟩
        cases impossible
      rintro trace result after - ⟨_, ended, run⟩
      cases ended
      -- The failure of one claim is original, which leaves a cause, a fault or an impasse.
      match result, run with
      | .ok (), run =>
          exact (inductionHypothesis after).mono fun more outcome rest => .gone run rest
      | .error (.check (.single cause) earlier), run =>
          obtain rfl : earlier = [] := run.isOriginal
          dsimp only
          split
          · rename_i isCancelled
            refine conforms_throw_bind ?_
            rw [List.append_nil]
            exact .stopped run fun other same => by cases same; exact isCancelled
          · rename_i goesOn
            refine conforms_note_bind fun noted => ?_
            refine (inductionHypothesis noted).bind ?_ ?_
            · rintro more failure rest
              exact .kept run goesOn rest
            · rintro more causes later - rest
              refine conforms_pure ?_
              rw [List.append_nil]
              exact .kept run goesOn rest
      | .error (.check (.cleanup causes) earlier), run => exact run.isOriginal.elim
      | .error (.foreign fault), run =>
          refine conforms_throw ?_
          rw [List.append_nil]
          exact .stopped run fun cause same => by cases same
      | .error (.impasse reason), run =>
          refine conforms_throw ?_
          rw [List.append_nil]
          exact .stopped run fun cause same => by cases same

/-- What is reported when causes were gathered. -/
def gathered : List Cause → Except Failure Unit
  | [] => .ok ()
  | [cause] => .error (.of cause)
  | causes => .error (.check (.cleanup causes) [])

/-- Deleting claims is dealing with each of them and reporting what was gathered. -/
theorem conforms_deleteClaims
    (reclaimer : Reclaimer)
    (claims : List Reference)
    (world : World) :
    Conforms (reclaimer.deleteClaims claims) world fun trace outcome =>
      ∃ collected, EachRun claims trace collected ∧ outcome = collected.bind gathered := by
  unfold Reclaimer.deleteClaims
  refine (conforms_deleteEach reclaimer claims world).bind ?_ ?_
  · rintro trace failure run
    exact ⟨_, run, rfl⟩
  · rintro trace causes after - run
    match causes, run with
    | [], run => exact conforms_pure ⟨_, by rwa [List.append_nil], rfl⟩
    | [cause], run => exact conforms_fail ⟨_, by rwa [List.append_nil], rfl⟩
    | first :: second :: others, run =>
        exact conforms_throw ⟨_, by rwa [List.append_nil], rfl⟩

/-- A run over a single claim ends as that claim does. -/
theorem ReclaimRun.of_eachRun
    {claim : Reference}
    {trace : List Exchange}
    {collected : Except Failure (List Cause)}
    (run : EachRun [claim] trace collected) :
    ReclaimRun claim trace (collected.bind gathered) := by
  cases run with
  | gone first rest =>
      cases rest
      rw [List.append_nil]
      exact first
  | kept first goesOn rest =>
      cases rest
      rw [List.append_nil]
      exact first
  | stopped first stops => exact first

end Probe
end Headroom
