import Headroom.Binary64.Basic
import Headroom.Cluster.Script
import Headroom.Failure

/-!
# Runs against a cluster

A run happens in a world: a scripted cluster, a clock, the calls made so far
with their outcomes, the records written and the name suffixes drawn.  Time
passes only while a call is answered and while somebody waits.  The clock keeps
the time exactly; who reads it gets the binary number nearest to the time.

Name suffixes come from a source of which nothing is said here; the one used when
nothing else is asked for counts in base thirty-six.

An action is a step of a run.  It ends with a value or a failure, and the world
it leaves behind is kept in either case.
-/

namespace Headroom
namespace Cluster

/-- When a run is cancelled: at a time, or once a number of calls were made. -/
structure Cancellation where
  atTime : Option Rat
  atCall : Option Nat
deriving DecidableEq, Repr

/-- A run that is never cancelled. -/
def Cancellation.never : Cancellation :=
  { atTime := none, atCall := none }

/-- A length of time. -/
inductive Duration
  | seconds (amount : Rat)
  | unbounded
deriving DecidableEq, Repr

/-- The length of a pause that somebody can be made to wait: its nanoseconds fit into a signed
integer of 64 bits. -/
def Duration.waitable? : Duration → Option Rat
  | .seconds amount => if amount * 1000000000 < 9223372036854775808 then some amount else none
  | .unbounded => none

/-- Whoever can be made to wait waits for the whole of a finite pause. -/
theorem Duration.waitable?_eq_some_iff
    {interval : Duration}
    {pause : Rat} :
    interval.waitable? = some pause ↔
      interval = .seconds pause ∧ pause * 1000000000 < 9223372036854775808 := by
  cases interval with
  | seconds amount =>
      unfold waitable?
      split <;> grind
  | unbounded => simp [waitable?]

/-- How important a record is. -/
inductive Severity
  | debug
  | info
  | warning
  | error
deriving DecidableEq, Repr

/-- A record of what happens in a run. -/
structure Record where
  severity : Severity
  message : Text
deriving DecidableEq, Repr

/-- A call and how it ended. -/
structure Exchange where
  call : Call
  outcome : Outcome call.Reply

/-- The world in which a run happens. -/
structure World where
  script : Script
  cancellation : Cancellation
  /-- The exact seconds since the start. -/
  clock : Rat
  /-- The calls made, the first one first. -/
  history : List Exchange
  /-- The records written, the first one first. -/
  records : List Record
  /-- The name suffix that each draw gives, the first one being that of zero. -/
  suffixes : Nat → List Char
  /-- How many name suffixes were drawn. -/
  drawn : Nat

namespace World

/-- The world before anything happens. -/
def start (script : Script) : World :=
  { script, cancellation := .never, clock := 0, history := [], records := []
    suffixes := Name.suffix, drawn := 0 }

/-- The calls made so far. -/
def calls (world : World) : List Call :=
  world.history.map (·.call)

/-- The seconds that are read off the clock. -/
def reading (world : World) : Rat :=
  Binary64.nearest world.clock

/-- Whether the run is cancelled. -/
def isCancelled (world : World) : Bool :=
  world.cancellation.atTime.any (· ≤ world.clock) ||
    world.cancellation.atCall.any (· ≤ world.history.length)

/-- The response that a call gets now. -/
def respond
    (world : World)
    (call : Call) :
    Response call.Reply :=
  world.script.respond world.calls call

/-- The world after a call is answered. -/
def afterCall
    (world : World)
    (call : Call) : World :=
  let response := world.respond call
  { world with
    clock := world.clock + response.delay
    history := world.history ++ [{ call, outcome := response.outcome }] }

/-- The world after a time has passed, or was cut short by the cancellation. -/
def afterWait
    (world : World)
    (seconds : Rat) : World :=
  match world.cancellation.atTime with
  | none => { world with clock := world.clock + seconds }
  | some time =>
    if time ≤ world.clock + seconds then { world with clock := time }
    else { world with clock := world.clock + seconds }

@[simp] theorem history_start (script : Script) : (start script).history = [] := rfl

@[simp] theorem calls_start (script : Script) : (start script).calls = [] := rfl

/-- A call is the last one made once it is answered. -/
@[simp] theorem calls_afterCall (world : World) (call : Call) :
    (world.afterCall call).calls = world.calls ++ [call] := by
  simp [calls, afterCall]

@[simp] theorem script_afterCall (world : World) (call : Call) :
    (world.afterCall call).script = world.script := rfl

@[simp] theorem cancellation_afterCall (world : World) (call : Call) :
    (world.afterCall call).cancellation = world.cancellation := rfl

@[simp] theorem clock_afterCall (world : World) (call : Call) :
    (world.afterCall call).clock = world.clock + (world.respond call).delay := rfl

@[simp] theorem records_afterCall (world : World) (call : Call) :
    (world.afterCall call).records = world.records := rfl

@[simp] theorem suffixes_afterCall (world : World) (call : Call) :
    (world.afterCall call).suffixes = world.suffixes := rfl

@[simp] theorem drawn_afterCall (world : World) (call : Call) :
    (world.afterCall call).drawn = world.drawn := rfl

/-- Waiting moves the clock and nothing else. -/
theorem afterWait_eq (world : World) (seconds : Rat) :
    world.afterWait seconds = { world with clock := (world.afterWait seconds).clock } := by
  unfold afterWait
  split
  · rfl
  · split <;> rfl

@[simp] theorem calls_afterWait (world : World) (seconds : Rat) :
    (world.afterWait seconds).calls = world.calls := by
  rw [afterWait_eq]
  rfl

end World

/-- A step of a run. -/
abbrev Action := ExceptT Failure (StateM World)

namespace Action

/-- What is true of the world now. -/
def observe
    {α : Type}
    (view : World → α) : Action α := do
  return view (← get)

/-- How a call ends. -/
def call (call : Call) : Action (Outcome call.Reply) := do
  let world ← get
  set (world.afterCall call)
  return (world.respond call).outcome

/-- A record is written. -/
def record
    (severity : Severity)
    (message : Text) : Action Unit :=
  modify fun world => { world with records := world.records ++ [{ severity, message }] }

/-- A record is written that holds no single surrogate. -/
def note
    (severity : Severity)
    (message : String) : Action Unit :=
  record severity (Text.ofString message)

/-- A name suffix is drawn. -/
def drawSuffix : Action (List Char) := do
  let world ← get
  set { world with drawn := world.drawn + 1 }
  return world.suffixes world.drawn

/-- A failure for a cause. -/
def fail
    {α : Type}
    (cause : Cause) : Action α :=
  throw (.of cause)

/-- A time passes; whether the run is cancelled then or was cancelled before. -/
def wait (interval : Duration) : Action Bool := do
  if (← get).isCancelled then return true
  match interval.waitable? with
  | none => throw (.impasse .overlongPause)
  | some amount =>
    let ended := (← get).cancellation.atTime.any (· ≤ (← get).clock + amount)
    modify (·.afterWait amount)
    return ended

/-- The value of a successful call; failures of the cluster become failures of the request. -/
def request (request : Call) : Action request.Reply := do
  match ← call request with
  | .answered value => return value
  | .refused _ reason => fail (.requestFailed request reason)
  | .unreachable reason => fail (.requestFailed request reason)
  | .crashed text => throw (.foreign (.crashed text))

/-- The value of a successful call, or nothing if what the call is about does not exist. -/
def requestIfFound (request : Call) : Action (Option request.Reply) := do
  match ← call request with
  | .answered value => return some value
  | .refused status reason =>
    if status = notFound then return none else fail (.requestFailed request reason)
  | .unreachable reason => fail (.requestFailed request reason)
  | .crashed text => throw (.foreign (.crashed text))

/-- The outcome of an action whose aftermath is done in any case. -/
def settle
    {α : Type} :
    Except Failure α → Except Failure Unit → Except Failure α
  | outcome, .ok () => outcome
  | .ok _, .error later => .error later
  | .error failure, .error later => .error (Failure.inWakeOf failure later)

/-- An action, and after it another one in any case. -/
def thenAlways
    {α : Type}
    (action : Action α)
    (after : Action Unit) : Action α :=
  ExceptT.mk fun world =>
    let (outcome, world) := action.run world
    let (aftermath, world) := after.run world
    (settle outcome aftermath, world)

/-- How an action ends, a failure being a value like others. -/
def attempt
    {α : Type}
    (action : Action α) : Action (Except Failure α) :=
  ExceptT.mk fun world =>
    let (outcome, world) := action.run world
    (.ok outcome, world)

@[simp] theorem run_observe
    {α : Type}
    (view : World → α)
    (world : World) :
    (observe view).run world = (.ok (view world), world) := rfl

@[simp] theorem run_call (request : Call) (world : World) :
    (call request).run world =
      (.ok (world.respond request).outcome, world.afterCall request) := rfl

@[simp] theorem run_record (severity : Severity) (message : Text) (world : World) :
    (record severity message).run world =
      (.ok (), { world with records := world.records ++ [{ severity, message }] }) := rfl

@[simp] theorem run_fail
    {α : Type}
    (cause : Cause)
    (world : World) :
    (fail cause : Action α).run world = (.error (.of cause), world) := rfl

@[simp] theorem run_drawSuffix (world : World) :
    drawSuffix.run world =
      (.ok (world.suffixes world.drawn), { world with drawn := world.drawn + 1 }) := rfl

/-- What comes afterwards is run in the world that the action leaves, however it ends. -/
theorem run_thenAlways
    {α : Type}
    (action : Action α)
    (after : Action Unit)
    (world : World) :
    (thenAlways action after).run world =
      (settle (action.run world).1 (after.run (action.run world).2).1,
        (after.run (action.run world).2).2) := rfl

@[simp] theorem run_attempt
    {α : Type}
    (action : Action α)
    (world : World) :
    (attempt action).run world = (.ok (action.run world).1, (action.run world).2) := rfl

@[simp] theorem settle_ok
    {α : Type}
    (outcome : Except Failure α) :
    settle outcome (.ok ()) = outcome := by
  cases outcome <;> rfl

end Action
end Cluster
end Headroom
