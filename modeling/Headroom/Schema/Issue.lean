import Headroom.Text.Quoted

/-!
# Issues of records

A record that does not have the form asked of it is answered with the list of
its issues.  Each issue says where in the record it lies and what is wrong
there; the places are listed in the order of the form, not of the record.

Checks accumulate: a form made of several parts reports the issues of all of
them.
-/

namespace Headroom
namespace Schema

/-- One step from a value to a part of it. -/
inductive Step
  | field (name : String)
  | index (position : Nat)
deriving DecidableEq, Repr

/-- What is wrong with a value. -/
inductive Problem
  | missing
  | unexpectedField
  | notText
  | notUnicodeText
  | notInteger
  | unreadableInteger
  | oversizedInteger
  | fractionalInteger
  | infiniteInteger
  | negative
  | notTruth
  | unreadableTruth
  | notNumber
  | unreadableNumber
  | notPositive
  | notList
  | notRecord
  | empty
  | relativePath (path : String)
  | unwritableInteger
deriving DecidableEq, Repr

/-- The wording of a problem that has one of its own. -/
def Problem.message? : Problem → Option String
  | .empty => some "Value error, Empty string is not a valid value"
  | .relativePath path =>
    some ("Value error, " ++ (Text.ofString path).quoted ++ " is not an absolute path")
  | .unwritableInteger =>
    some ("Value error, Exceeds the limit (4300 digits) for integer string conversion; " ++
      "use sys.set_int_max_str_digits() to increase the limit")
  | _ => none

/-- What a problem asks for, in a few words. -/
def Problem.summary : Problem → String
  | .missing => "a value is required"
  | .unexpectedField => "there is no such field"
  | .notText | .notUnicodeText => "a text is expected"
  | .notInteger | .unreadableInteger | .oversizedInteger | .fractionalInteger
  | .infiniteInteger => "an integer is expected"
  | .negative => "the value must not be negative"
  | .notTruth | .unreadableTruth => "a truth value is expected"
  | .notNumber | .unreadableNumber => "a number is expected"
  | .notPositive => "the value must be greater than zero"
  | .notList => "a list is expected"
  | .notRecord => "a record is expected"
  | .empty => "the value must not be empty"
  | .relativePath _ => "an absolute path is expected"
  | .unwritableInteger => "the integer is too long"

/-- A problem and the place where it lies. -/
structure Issue where
  location : List Step
  problem : Problem
deriving DecidableEq, Repr

/-- A step written out. -/
def Step.text : Step → String
  | .field name => name
  | .index position => toString position

/-- An issue written out. -/
def Issue.text (issue : Issue) : String :=
  String.intercalate "." (issue.location.map Step.text) ++ ": " ++ issue.problem.summary

/-- A value, or the issues that keep it from being one. -/
abbrev Checked (α : Type) := Except (List Issue) α

namespace Checked

/-- A function applied to an argument, the issues of both being reported. -/
def apply
    {α β : Type}
    (function : Checked (α → β))
    (argument : Checked α) :
    Checked β :=
  match function, argument with
  | .ok function, .ok argument => .ok (function argument)
  | .error issues, .ok _ => .error issues
  | .ok _, .error issues => .error issues
  | .error earlier, .error later => .error (earlier ++ later)

/-- A function applied to an argument has a value only if both have one. -/
theorem apply_eq_ok_iff
    {α β : Type}
    {function : Checked (α → β)}
    {argument : Checked α}
    {value : β} :
    function.apply argument = .ok value ↔
      ∃ step input, function = .ok step ∧ argument = .ok input ∧ step input = value := by
  cases function <;> cases argument <;> simp [apply]

/-- The values of a list, or the issues of all of them. -/
def sequence
    {α : Type} :
    List (Checked α) → Checked (List α)
  | [] => .ok []
  | first :: rest => apply (apply (.ok List.cons) first) (sequence rest)

/-- A value read at a field of a record. -/
def atField
    {α : Type}
    (name : String)
    (value : Except Problem α) :
    Checked α :=
  value.mapError fun problem => [⟨[.field name], problem⟩]

/-- The issues of a value that is part of another one. -/
def inside
    {α : Type}
    (step : Step)
    (value : Checked α) :
    Checked α :=
  value.mapError fun issues =>
    issues.map fun issue => { issue with location := step :: issue.location }

/-- A value that passes only if a further list of issues is empty. -/
def provided
    {α : Type}
    (value : Checked α)
    (others : List Issue) :
    Checked α :=
  match value with
  | .ok value => if others.isEmpty then .ok value else .error others
  | .error issues => .error (issues ++ others)

end Checked
end Schema
end Headroom
