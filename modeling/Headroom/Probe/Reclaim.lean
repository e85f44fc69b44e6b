import Headroom.Probe.Poll

/-!
# Reclaiming temporary volumes

A claim disappears as soon as it is deleted, but the space behind it is free
only when its volume is gone.  So the volume bound to the claim is looked up
first, the claim is deleted, and then the volume is polled until it does not
exist any more.

Every claim of a list is dealt with, even after another one failed; only the
cancellation of the run and faults that the check does not account for put an
end to it.
-/

namespace Headroom
namespace Probe

open Cluster

/-- How volumes are waited for. -/
structure Reclaimer where
  pollInterval : Duration
  deletionTimeout : Duration
deriving DecidableEq, Repr

/-- Whether a namespace is given. -/
def isGiven (namespaceName : Option String) : Bool :=
  namespaceName.any (· ≠ "")

/-- Whether a reference kept by a volume is to a claim; a namespace that is not given fits any. -/
def refersTo (reference claim : Reference) : Bool :=
  reference.name == claim.name &&
    !(isGiven reference.namespaceName && isGiven claim.namespaceName &&
      reference.namespaceName != claim.namespaceName)

/-- Whether a volume is bound to a claim. -/
def isBoundTo
    (claim : Reference)
    (volume : Volume) : Bool :=
  (volume.spec.bind (·.claim)).any (refersTo · claim)

/-- The first volume that is bound to a claim. -/
def findVolume (claim : Reference) : Action (Option Volume) := do
  let volumes ← Action.request .listVolumes
  return volumes.find? (isBoundTo claim)

namespace Reclaimer

/-- Whether a volume is gone. -/
def askGone (volume : String) : Action (Option Unit) := do
  match ← Action.requestIfFound (.readVolume volume) with
  | some () => return none
  | none =>
    Action.note .info ("Pv " ++ volume ++ " deleted")
    return some ()

/-- Waiting until a volume is gone. -/
def waitDeletion
    (reclaimer : Reclaimer)
    (volume : String) : Action Unit := do
  Action.note .info ("Waiting for pv " ++ volume ++ " to be deleted")
  pollFor (.readVolume volume) (askGone volume) (.deletionTimeout volume)
    reclaimer.pollInterval reclaimer.deletionTimeout

/-- Deleting a claim and waiting until its volume, if it has one, is gone. -/
def deleteClaim
    (reclaimer : Reclaimer)
    (claim : Reference) : Action Unit := do
  let volume ← findVolume claim
  let name := nameText claim.name
  Action.note .debug
    ("Deleting temporary pvc " ++ nameText claim.namespaceName ++ "/" ++ name)
  discard (Action.requestIfFound (.deleteClaim claim))
  match volume with
  | none => Action.note .debug ("No pv bound to pvc " ++ name ++ ", nothing to wait for")
  | some volume => reclaimer.waitDeletion volume.name

/-- The causes for which claims could not be deleted, each claim being dealt with in turn. -/
def deleteEach
    (reclaimer : Reclaimer) :
    List Reference → Action (List Cause)
  | [] => return []
  | claim :: others => do
    match ← Action.attempt (reclaimer.deleteClaim claim) with
    | .ok () => reclaimer.deleteEach others
    | .error (.check (.single cause) earlier) =>
      if cause = .cancelled then throw (.check (.single cause) earlier)
      Action.note .error cause.message
      let causes ← reclaimer.deleteEach others
      return cause :: causes
    | .error failure => throw failure

/-- Deleting claims, every one of them, and reporting all that failed. -/
def deleteClaims
    (reclaimer : Reclaimer)
    (claims : List Reference) : Action Unit := do
  match ← reclaimer.deleteEach claims with
  | [] => return ()
  | [cause] => Action.fail cause
  | causes => throw (.check (.cleanup causes) [])

end Reclaimer
end Probe
end Headroom
