import Headroom.Environment.Assignment
import Headroom.NameTable

/-!
# Expansion of variables

A value may refer to variables, as `$` with a name in braces; after `:-` the
braces may hold a default, which stands in for a variable that is not there.
Braces of any other form are ordinary text.

The values of a file are expanded in turn.  A reference is to the last earlier
assignment of its name, or else to the surrounding environment.
-/

namespace Headroom

/-- Names with their values. -/
abbrev Environment := List (String × String)

/-- A reference to a variable. -/
structure VariableReference where
  name : String
  default : Option String
deriving DecidableEq, Repr

namespace VariableReference

/-- The brace that opens a reference. -/
def opening : Char := '\x7b'

/-- The brace that closes a reference. -/
def closing : Char := '\x7d'

/-- Whether a character can stand in the name of a reference. -/
def isNameChar (char : Char) : Bool :=
  char != closing && char != ':'

/-- The reference whose name a text begins with, and what follows its closing brace. -/
def read? (text : List Char) : Option (VariableReference × List Char) :=
  let name := String.ofList (text.takeWhile isNameChar)
  match text.dropWhile isNameChar with
  | ':' :: '-' :: rest =>
    match rest.dropWhile (· != closing) with
    | _ :: after =>
      some ({ name, default := some (String.ofList (rest.takeWhile (· != closing))) }, after)
    | [] => none
  | char :: after => if char = closing then some ({ name, default := none }, after) else none
  | [] => none

/-- What follows a reference is shorter than what it was read from. -/
theorem length_lt_of_read?
    {text after : List Char}
    {reference : VariableReference}
    (readable : read? text = some (reference, after)) :
    after.length < text.length := by
  have bound := (List.dropWhile_suffix isNameChar (l := text)).length_le
  unfold read? at readable
  split at readable
  · next rest dropped =>
    have inner := (List.dropWhile_suffix (· != closing) (l := rest)).length_le
    rw [dropped] at bound
    split at readable
    · next split =>
      simp only [Option.some.injEq, Prod.mk.injEq] at readable
      rw [split] at inner
      simp only [List.length_cons] at *
      have := congrArg List.length readable.2
      omega
    · cases readable
  · next notDefault dropped =>
    rw [dropped] at bound
    split at readable
    · simp only [Option.some.injEq, Prod.mk.injEq] at readable
      have := congrArg List.length readable.2
      simp only [List.length_cons] at *
      omega
    · cases readable
  · cases readable

end VariableReference

/-- A text in which references are replaced by what they stand for. -/
def expand
    (meaning : VariableReference → String) :
    List Char → List Char
  | [] => []
  | char :: rest =>
    if char = '$' ∧ rest.head? = some VariableReference.opening then
      match readable : VariableReference.read? rest.tail with
      | some (reference, after) =>
        have := VariableReference.length_lt_of_read? readable
        (meaning reference).toList ++ expand meaning after
      | none => char :: expand meaning rest
    else char :: expand meaning rest
termination_by text => text.length
decreasing_by
  all_goals simp only [List.length_cons]
  · simp only [List.length_tail] at this
    omega
  · omega
  · omega

/-- Names with the values assigned to them, an assignment of nothing being kept as such. -/
abbrev FileValues := NameTable (Option String)

namespace FileValues

/-- What a reference stands for after some assignments in an environment. -/
def meaning
    (environment : Environment)
    (values : FileValues)
    (reference : VariableReference) : String :=
  match values.find? reference.name with
  | some value => value.getD ""
  | none => ((List.lookup reference.name environment).or reference.default).getD ""

/-- The values after one more assignment, whose value is expanded. -/
def assign
    (environment : Environment)
    (values : FileValues)
    (assignment : Assignment) : FileValues :=
  values.put (String.ofList assignment.name)
    (assignment.value.map fun value => String.ofList (expand (values.meaning environment) value))

/-- The values of a file of assignments that is read in an environment. -/
def ofFile
    (environment : Environment)
    (file : AssignmentFile) : FileValues :=
  file.assignments.foldl (assign environment) []

end FileValues
end Headroom
