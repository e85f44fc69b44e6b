import Headroom.Yaml.Fault

/-!
# Attempts and their faults

Reading a text is a chain of attempts, each of which has a result or a fault.  What is
known of an attempt is a property that its result has and a set in which its fault lies;
both are found link by link along the chain.
-/

namespace Headroom
namespace Yaml

variable {α β : Type}

/-- An attempt has a result with a property, or one of certain faults. -/
def Meets
    (property : α → Prop)
    (faults : Fault → Prop) :
    Except Fault α → Prop
  | .ok result => property result
  | .error fault => faults fault

/-- An attempt has any result, or one of certain faults. -/
abbrev FailsOnly
    (faults : Fault → Prop)
    (attempt : Except Fault α) : Prop :=
  Meets (fun _ => True) faults attempt

section Rules

variable {property : α → Prop} {following : β → Prop} {faults : Fault → Prop}
variable {attempt : Except Fault α} {next : α → Except Fault β}

@[simp] theorem meets_ok {result : α} :
    Meets property faults (.ok result) ↔ property result := Iff.rfl

@[simp] theorem meets_pure {result : α} :
    Meets property faults (pure result : Except Fault α) ↔ property result := Iff.rfl

/-- What is known of an attempt that goes on with its result. -/
theorem meets_bind :
    Meets following faults (attempt >>= next) ↔
      Meets (fun result => Meets following faults (next result)) faults attempt := by
  cases attempt <;> rfl

theorem meets_map {step : α → β} :
    Meets following faults (attempt.map step) ↔
      Meets (fun result => following (step result)) faults attempt := by
  cases attempt <;> rfl

/-- All that is known of any attempt. -/
theorem failsOnly_self (attempt : Except Fault α) :
    FailsOnly (fun fault => attempt = .error fault) attempt := by
  cases attempt with
  | ok result => trivial
  | error fault => rfl

/-- Less may be claimed of an attempt. -/
theorem Meets.mono
    {weaker : α → Prop}
    {more : Fault → Prop}
    (known : Meets property faults attempt)
    (weakens : ∀ result, property result → weaker result)
    (allows : ∀ fault, faults fault → more fault) :
    Meets weaker more attempt := by
  cases attempt with
  | ok result => exact weakens result known
  | error fault => exact allows fault known

theorem Meets.imp
    {weaker : α → Prop}
    (known : Meets property faults attempt)
    (weakens : ∀ result, property result → weaker result) :
    Meets weaker faults attempt :=
  known.mono weakens fun _ => id

/-- An attempt that goes on with its result. -/
theorem Meets.bind
    (first : Meets property faults attempt)
    (second : ∀ result, property result → Meets following faults (next result)) :
    Meets following faults (attempt >>= next) :=
  meets_bind.mpr (first.imp second)

/-- An attempt that is one of two. -/
theorem Meets.ite
    {condition : Prop}
    [Decidable condition]
    {other : Except Fault α}
    (first : Meets property faults attempt)
    (second : Meets property faults other) :
    Meets property faults (if condition then attempt else other) := by
  split
  · exact first
  · exact second

/-- The fault of an attempt is one of those that it may have. -/
theorem Meets.of_error
    {fault : Fault}
    (known : Meets property faults attempt)
    (failed : attempt = .error fault) :
    faults fault := by
  rw [failed] at known
  exact known

/-- The result of an attempt has the property that is known of it. -/
theorem Meets.of_ok
    {result : α}
    (known : Meets property faults attempt)
    (succeeded : attempt = .ok result) :
    property result := by
  rw [succeeded] at known
  exact known

/-- Steps taken one after the other keep a property that each of them keeps. -/
theorem meets_foldlM
    (kept : β → Prop)
    {step : β → α → Except Fault β}
    (keeps : ∀ state item, kept state → Meets kept faults (step state item))
    {state : β}
    (holds : kept state)
    (items : List α) :
    Meets kept faults (items.foldlM step state) := by
  induction items generalizing state with
  | nil => exact holds
  | cons item others inductionHypothesis =>
      exact (keeps state item holds).bind fun _ => inductionHypothesis

end Rules

end Yaml
end Headroom
