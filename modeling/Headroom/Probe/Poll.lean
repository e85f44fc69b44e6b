import Headroom.Cluster.World

/-!
# Polling

Whoever waits for something asks for it again and again, with a pause after each
answer that is not yet the wanted one.  The wait ends when the answer comes, when
the run is cancelled, or when an answer comes at or after the deadline and is
still not the wanted one.  The deadline is a sum of binary numbers, and it is
compared with what the clock shows.  A pause that is too long for a clock of the
system to measure ends it at once.

A wait whose answers have settled and whose clock stands still would go on for
ever.  The number of polls after which that is certain is computed beforehand,
and a wait that outlasts it is reported as endless.
-/

namespace Headroom
namespace Probe

open Cluster

/-- How many steps of a length fit into a limit, the last one perhaps reaching beyond it. -/
def stepsWithin (limit step : Rat) : Nat :=
  if 0 < step then (limit / step).ceil.toNat else 0

/-- The time that the last prepared answer to a call takes. -/
def settledDelay
    (script : Script)
    (call : Call) : Rat :=
  (((script.route? call).bind fun route => route.responses.getLast?).map (·.delay)).getD 0

/-- How many answers to a call are prepared. -/
def preparedAnswers
    (script : Script)
    (call : Call) : Nat :=
  ((script.route? call).map fun route => route.responses.length).getD 0

/-- The reading of the clock at which a wait is late that begins at a given one. -/
def deadline
    (reading : Rat)
    (timeout : Duration) : Option Rat :=
  match timeout with
  | .seconds limit => some (Binary64.nearest (reading + Binary64.nearest limit))
  | .unbounded => none

/-- A number of polls that a wait does not outlast unless it is endless. -/
def patience
    (world : World)
    (call : Call)
    (interval timeout : Duration) : Nat :=
  match interval.waitable? with
  | none => 2
  | some pause =>
    let within (limit : Rat) : Nat :=
      stepsWithin limit pause + stepsWithin limit (settledDelay world.script call)
    let due := deadline world.reading timeout
    let byTimeout := (due.map fun due => within (due - world.clock)).getD 0
    let byTime := (world.cancellation.atTime.map within).getD 0
    let byCall := world.cancellation.atCall.getD 0
    preparedAnswers world.script call + byTimeout + byTime + byCall + 2

/-- Asking until there is a value, the run is cancelled, or the deadline has passed. -/
def poll
    {α : Type}
    (ask : Action (Option α))
    (late : Cause)
    (interval : Duration)
    (limit : Option Rat) :
    Nat → Action α
  | 0 => throw (.impasse .endless)
  | fuel + 1 => do
    if ← Action.observe (·.isCancelled) then Action.fail .cancelled
    match ← ask with
    | some value => return value
    | none =>
      if ← Action.observe fun world => limit.any (· ≤ world.reading) then Action.fail late
      if ← Action.wait interval then Action.fail .cancelled
      poll ask late interval limit fuel

/-- Polling by a call, from now until a timeout. -/
def pollFor
    {α : Type}
    (call : Call)
    (ask : Action (Option α))
    (late : Cause)
    (interval timeout : Duration) :
    Action α := do
  let world ← get
  poll ask late interval (deadline world.reading timeout) (patience world call interval timeout)

end Probe
end Headroom
