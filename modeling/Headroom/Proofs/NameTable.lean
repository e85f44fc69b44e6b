import Headroom.NameTable

/-!
# Filling tables

A table is filled by giving values to names one after the other.  A name that got
several values has the last one, and its place is that of the first one.
-/

namespace Headroom
namespace NameTable

variable {α : Type}

/-- The table in which names have got values one after the other. -/
def putAll
    (table : NameTable α)
    (entries : List (String × α)) : NameTable α :=
  entries.foldl (fun filled entry => filled.put entry.1 entry.2) table

@[simp] theorem putAll_nil (table : NameTable α) : table.putAll [] = table := rfl

@[simp] theorem putAll_cons
    (table : NameTable α)
    (entry : String × α)
    (entries : List (String × α)) :
    table.putAll (entry :: entries) = (table.put entry.1 entry.2).putAll entries := rfl

/-- A name has the last value it got, or else the one it had. -/
theorem find?_putAll
    (table : NameTable α)
    (entries : List (String × α))
    (name : String) :
    (table.putAll entries).find? name =
      (entries.reverse.lookup name).or (table.find? name) := by
  induction entries generalizing table with
  | nil => rfl
  | cons entry entries inductionHypothesis =>
      obtain ⟨first, value⟩ := entry
      rw [putAll_cons, inductionHypothesis, find?_put, List.reverse_cons, List.lookup_append,
        Option.or_assoc]
      by_cases same : name = first
      · simp [same]
      · simp [same, List.lookup_cons, beq_false_of_ne same]

/-- The names of a filled table are those that it had and then the new ones, each in the place
where it first got a value. -/
theorem names_putAll
    (table : NameTable α)
    (entries : List (String × α)) :
    (table.putAll entries).names =
      table.names ++ ((entries.map (·.1)).removeAll table.names).eraseDups := by
  induction entries generalizing table with
  | nil => simp [List.removeAll]
  | cons entry entries inductionHypothesis =>
      obtain ⟨first, value⟩ := entry
      rw [putAll_cons, inductionHypothesis, names_put]
      by_cases listed : first ∈ table.names
      · simp [listed, List.cons_removeAll]
      · have tests (name : String) : (name == first) = decide (name = first) := rfl
        simp [listed, List.eraseDups_cons, List.removeAll, tests, Bool.and_comm]

/-- What a name has in a table that was empty before it was filled. -/
theorem find?_putAll_nil_eq_some_iff
    {entries : List (String × α)}
    {name : String}
    {value : α} :
    (putAll [] entries).find? name = some value ↔
      ∃ earlier later, entries = earlier ++ (name, value) :: later ∧
        ∀ entry ∈ later, entry.1 ≠ name := by
  rw [find?_putAll, find?_nil, Option.or_none, List.lookup_eq_some_iff]
  constructor
  · rintro ⟨later, earlier, reversed, unlisted⟩
    refine ⟨earlier.reverse, later.reverse, ?_, ?_⟩
    · rw [List.reverse_eq_iff.mp reversed]
      simp
    · intro entry present same
      have other := unlisted entry (List.mem_reverse.mp present)
      simp [same] at other
  · rintro ⟨earlier, later, rfl, unlisted⟩
    refine ⟨later.reverse, earlier.reverse, by simp, ?_⟩
    intro entry present
    simpa using Ne.symm (unlisted entry (List.mem_reverse.mp present))

/-- If every name gets one and the same value whenever it gets one, that is what it has. -/
theorem find?_putAll_nil_eq_some_iff_mem
    {entries : List (String × α)}
    (consistent : ∀ name first second,
      (name, first) ∈ entries → (name, second) ∈ entries → first = second)
    {name : String}
    {value : α} :
    (putAll [] entries).find? name = some value ↔ (name, value) ∈ entries := by
  constructor
  · intro found
    obtain ⟨earlier, later, rfl, -⟩ := find?_putAll_nil_eq_some_iff.mp found
    simp
  · intro listed
    cases found : (putAll [] entries).find? name with
    | none =>
        rw [find?_putAll, find?_nil, Option.or_none, List.lookup_eq_none_iff] at found
        have other := found (name, value) (List.mem_reverse.mpr listed)
        simp at other
    | some last =>
        obtain ⟨earlier, later, rfl, -⟩ := find?_putAll_nil_eq_some_iff.mp found
        rw [consistent name last value (by simp) listed]

/-- The names of a table that was empty before it was filled. -/
theorem names_putAll_nil (entries : List (String × α)) :
    (putAll [] entries).names = (entries.map (·.1)).eraseDups := by
  have nothing (names : List String) : names.removeAll [] = names :=
    List.filter_eq_self.mpr fun _ _ => rfl
  rw [names_putAll]
  exact congrArg List.eraseDups (nothing _)

example : putAll [] [("a", 1), ("b", 2), ("a", 3)] = [("a", 3), ("b", 2)] := rfl

end NameTable
end Headroom
