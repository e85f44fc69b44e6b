import Headroom.Cluster.Call

/-!
# Scripted clusters

A scripted cluster answers each call from a list prepared for it: for a method
as a whole, or for a method with one argument.  The first call that goes to a
list gets its first answer, the second the second, and so on; the last answer
is repeated.

Which answer a call gets depends on the calls made before it and on nothing
else.  A call for which nothing is prepared is answered as by a cluster that is
empty and healthy.
-/

namespace Headroom
namespace Cluster

/-- How a call ends. -/
inductive Outcome (α : Type)
  | answered (value : α)
  /-- The cluster refuses the call with a status. -/
  | refused (status : Int) (reason : Option String)
  /-- The cluster cannot be reached. -/
  | unreachable (reason : Option String)
  /-- The call breaks off in a way that nobody expects. -/
  | crashed (text : String)
deriving DecidableEq, Repr

/-- How a call ends, and how many seconds later. -/
structure Response (α : Type) where
  outcome : Outcome α
  delay : Rat
deriving DecidableEq, Repr

/-- A response without delay. -/
def Response.immediate
    {α : Type}
    (outcome : Outcome α) : Response α :=
  { outcome, delay := 0 }

/-- The responses prepared for the calls of a method, or for those with one argument. -/
structure Route (α : Type) where
  argument : Option String
  responses : List (Response α)

/-- The routes of each method. -/
structure Script where
  routes : (method : Method) → List (Route method.Reply)

/-- The script in which nothing is prepared. -/
def Script.unprepared : Script :=
  { routes := fun _ => [] }

/-- The status of what does not exist. -/
def notFound : Int := 404

/-- The response to a call for which nothing is prepared. -/
def Method.unscripted
    (argument : String) :
    (method : Method) → Response method.Reply
  | .readStorageClass => .immediate (.refused notFound (some "Not Found"))
  | .readNode => .immediate (.answered { metadata := some ⟨some argument, []⟩, taints := [] })
  | .listVolumes => .immediate (.answered [])
  | .readVolume => .immediate (.refused notFound (some "Not Found"))
  | .createClaim => .immediate (.answered ())
  | .deleteClaim => .immediate (.answered ())
  | .createJob => .immediate (.answered ())
  | .readJobStatus => .immediate (.answered (some { succeeded := 1, failed := 0 }))
  | .deleteJob => .immediate (.answered ())
  | .listPods => .immediate (.answered [some "probe-pod"])
  | .readLog => .immediate (.answered "")

namespace Script

/-- The route of a call: the one for its argument, or else the one for its method. -/
def route?
    (script : Script)
    (call : Call) :
    Option (Route call.Reply) :=
  let routes := script.routes call.method
  (routes.find? fun route => route.argument == some call.argument).or
    (routes.find? fun route => route.argument == none)

/-- What tells the routes of calls apart. -/
def routeKey
    (script : Script)
    (call : Call) :
    Method × Option (Option String) :=
  (call.method, (script.route? call).map (·.argument))

/-- How many earlier calls went the same way as a call. -/
def callsBefore
    (script : Script)
    (earlier : List Call)
    (call : Call) : Nat :=
  earlier.countP fun other => script.routeKey other == script.routeKey call

/-- The response to a call that follows others. -/
def respond
    (script : Script)
    (earlier : List Call)
    (call : Call) :
    Response call.Reply :=
  match script.route? call with
  | none => call.method.unscripted call.argument
  | some route =>
    (route.responses[script.callsBefore earlier call]?.or route.responses.getLast?).getD
      (call.method.unscripted call.argument)

end Script
end Cluster
end Headroom
