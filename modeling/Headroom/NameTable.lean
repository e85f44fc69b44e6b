/-!
# Tables of names

A table holds values by their names, in the order in which the names first got
one.  A name that gets another value keeps its place.

A name that gets a value has it, and other names keep what they had.
-/

namespace Headroom

/-- Values by their names. -/
abbrev NameTable (α : Type) := List (String × α)

namespace NameTable

variable {α : Type}

/-- The names of a table, in their order. -/
def names (table : NameTable α) : List String :=
  table.map (·.1)

/-- The value of a name. -/
def find?
    (table : NameTable α)
    (name : String) :
    Option α :=
  table.lookup name

/-- The table in which a name has a value. -/
def put
    (table : NameTable α)
    (name : String)
    (value : α) : NameTable α :=
  match table with
  | [] => [(name, value)]
  | (other, earlier) :: rest =>
    if other = name then (name, value) :: rest else (other, earlier) :: put rest name value

@[simp] theorem find?_nil (name : String) : find? ([] : NameTable α) name = none := rfl

theorem find?_cons
    (entry : String × α)
    (rest : NameTable α)
    (name : String) :
    find? (entry :: rest) name = if name = entry.1 then some entry.2 else find? rest name := by
  obtain ⟨other, value⟩ := entry
  by_cases same : name = other
  · simp [find?, same]
  · simp [find?, List.lookup_cons, same, beq_false_of_ne same]

/-- What a name has after a name got a value. -/
theorem find?_put
    (table : NameTable α)
    (name other : String)
    (value : α) :
    (table.put name value).find? other = if other = name then some value else table.find? other := by
  induction table with
  | nil => simp [put, find?_cons]
  | cons entry rest inductionHypothesis =>
    obtain ⟨first, earlier⟩ := entry
    by_cases isFirst : first = name
    · subst isFirst
      simp only [put, if_true, find?_cons]
      split <;> rfl
    · simp only [put, if_neg isFirst, find?_cons, inductionHypothesis]
      by_cases isOther : other = first
      · subst isOther
        simp [isFirst]
      · simp [isOther]

/-- The names of a table after a name got a value. -/
theorem names_put
    (table : NameTable α)
    (name : String)
    (value : α) :
    (table.put name value).names =
      if name ∈ table.names then table.names else table.names ++ [name] := by
  induction table with
  | nil => rfl
  | cons entry rest inductionHypothesis =>
    obtain ⟨first, earlier⟩ := entry
    by_cases isFirst : first = name
    · subst isFirst
      simp [put, names]
    · simp only [names] at inductionHypothesis
      by_cases listed : name ∈ rest.map (·.1)
      · simp [put, isFirst, names, inductionHypothesis, listed]
      · simp [put, isFirst, names, inductionHypothesis, listed, Ne.symm isFirst]

end NameTable
end Headroom
