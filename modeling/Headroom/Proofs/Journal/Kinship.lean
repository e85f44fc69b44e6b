import Headroom.Journal.Logger

/-!
# What becomes of loggers when others become known

A journal finds its loggers by their names, the root logger by either of its two names.  Making
a logger known adds it and may put it between others and those above them, but it changes
neither their levels nor whether they are open; putting a logger into its place changes that
logger and no other one.

The logger above another one is known itself, and its name is a shorter one.
-/

namespace Headroom
namespace Journal

/-- The name by which a logger is known; the root logger has another one besides. -/
def properName (name : String) : String :=
  if isRootName name then rootName else name

theorem properName_of_isRootName
    {name : String}
    (isRoot : isRootName name = true) :
    properName name = rootName :=
  if_pos isRoot

theorem properName_of_not_isRootName
    {name : String}
    (notRoot : isRootName name = false) :
    properName name = name := by
  simp [properName, notRoot]

@[simp] theorem isRootName_properName (name : String) :
    isRootName (properName name) = isRootName name := by
  cases isRoot : isRootName name with
  | true => rw [properName_of_isRootName isRoot]; rfl
  | false => rw [properName_of_not_isRootName isRoot, isRoot]

@[simp] theorem properName_properName (name : String) :
    properName (properName name) = properName name := by
  cases isRoot : isRootName name with
  | true => rw [properName_of_isRootName isRoot]; rfl
  | false => rw [properName_of_not_isRootName isRoot, properName_of_not_isRootName isRoot]

section Finding

variable {journal : Journal} {name other : String} {logger : Logger}

theorem name_of_find? (found : journal.find? name = some logger) : logger.name = name := by
  simpa using List.find?_some found

theorem get_of_isRootName (isRoot : isRootName name = true) : journal.get name = journal.root := by
  simp [get, isRoot]

theorem get_of_find?
    (notRoot : isRootName name = false)
    (found : journal.find? name = some logger) :
    journal.get name = logger := by
  simp [get, notRoot, found]

theorem get_properName (journal : Journal) (name : String) :
    journal.get (properName name) = journal.get name := by
  cases isRoot : isRootName name with
  | true => rw [get_of_isRootName isRoot, get_of_isRootName (by rw [isRootName_properName, isRoot])]
  | false => rw [properName_of_not_isRootName isRoot]

/-- A logger is found by either of its names. -/
theorem get_congr
    (journal : Journal)
    (same : properName name = properName other) :
    journal.get name = journal.get other := by
  rw [← get_properName, same, get_properName]

end Finding

section Setting

variable (journal : Journal) (logger : Logger)

theorem find?_set_of_ne
    {name : String}
    (different : name ≠ logger.name) :
    (journal.set logger).find? name = journal.find? name := by
  unfold set
  split
  · rfl
  · have passed : (logger.name == name) = false := beq_false_of_ne different.symm
    simp only [find?, List.find?_cons, passed, List.find?_filter]
    congr 1
    funext candidate
    by_cases same : candidate.name = name <;> simp [same, different]

theorem find?_set_self (notRoot : isRootName logger.name = false) :
    (journal.set logger).find? logger.name = some logger := by
  simp [set, notRoot, find?]

/-- A logger other than the root one takes the place of the one of its name. -/
theorem find?_set
    (notRoot : isRootName logger.name = false)
    (name : String) :
    (journal.set logger).find? name =
      if name = logger.name then some logger else journal.find? name := by
  split
  · rename_i same
    rw [same, find?_set_self journal logger notRoot]
  · rename_i different
    exact find?_set_of_ne journal logger different

theorem root_set_of_not_isRootName (notRoot : isRootName logger.name = false) :
    (journal.set logger).root = journal.root := by
  simp [set, notRoot]

theorem decisions_set : (journal.set logger).decisions = journal.decisions := by
  unfold set
  split <;> rfl

/-- A logger that is put into a journal is found by its names, and no other one changes. -/
theorem get_set (name : String) :
    (journal.set logger).get name =
      if properName name = properName logger.name then logger else journal.get name := by
  split
  · rename_i same
    rw [← get_properName, same, get_properName, get_set_self]
  · rename_i different
    cases isRoot : isRootName name with
    | true =>
        have notRoot : isRootName logger.name = false := by
          apply Bool.eq_false_iff.mpr
          intro alsoRoot
          apply different
          rw [properName_of_isRootName isRoot, properName_of_isRootName alsoRoot]
        rw [get_of_isRootName isRoot, get_of_isRootName isRoot,
          root_set_of_not_isRootName _ _ notRoot]
    | false =>
        have otherName : name ≠ logger.name := by
          rintro rfl
          exact different rfl
        simp [get, isRoot, find?_set_of_ne journal logger otherName]

end Setting

section Registering

variable {journal : Journal}

/-- The names over a name are shorter ones. -/
theorem length_lt_of_mem_namesAbove
    {passOver : Bool}
    {chars : List Char}
    {other : String}
    (listed : other ∈ namesAbove passOver chars) :
    other.toList.length < chars.length := by
  induction chars generalizing passOver with
  | nil => cases listed
  | cons char rest inductionHypothesis =>
      have shorter {passOver : Bool} (later : other ∈ namesAbove passOver rest) :
          other.toList.length < (char :: rest).length := by
        have bound := inductionHypothesis later
        rw [List.length_cons]
        omega
      unfold namesAbove at listed
      split at listed
      · split at listed
        · cases listed
        · rcases List.mem_cons.mp listed with rfl | later
          · simp
          · exact shorter later
      · exact shorter listed

theorem ne_of_mem_namesOver
    {name other : String}
    (listed : other ∈ namesOver name) :
    other ≠ name := by
  rintro rfl
  have bound := length_lt_of_mem_namesAbove listed
  rw [List.length_reverse] at bound
  omega

/-- Placing a logger under a name moves it there or leaves it where it is. -/
theorem placeUnder_eq (name : String) (logger : Logger) :
    ∃ upper, placeUnder name logger = { logger with upper } ∧
      (upper = logger.upper ∨ upper = some name ∧ name ≠ logger.name) := by
  unfold placeUnder
  split
  · rename_i moves
    simp only [Bool.and_eq_true, List.contains_iff_mem] at moves
    exact ⟨some name, rfl, .inr ⟨rfl, ne_of_mem_namesOver moves.1⟩⟩
  · exact ⟨logger.upper, rfl, .inl rfl⟩

@[simp] theorem name_placeUnder (name : String) (logger : Logger) :
    (placeUnder name logger).name = logger.name := by
  obtain ⟨upper, placed, -⟩ := placeUnder_eq name logger
  rw [placed]

/-- The logger that becomes known under a name. -/
def newcomer
    (journal : Journal)
    (name : String) : Logger :=
  { Logger.fresh name with
    upper := (namesOver name).find? fun other => (journal.find? other).isSome }

theorem register_of_known
    {name : String}
    (known : isRootName name = true ∨ (journal.find? name).isSome = true) :
    journal.register name = journal := by
  unfold register
  rw [if_pos (by simpa using known)]

@[simp] theorem root_register (journal : Journal) (name : String) :
    (journal.register name).root = journal.root := by
  unfold register
  split <;> rfl

@[simp] theorem decisions_register (journal : Journal) (name : String) :
    (journal.register name).decisions = journal.decisions := by
  unfold register
  split <;> rfl

/-- A name that was unknown belongs to a new logger, and known loggers are placed under it. -/
theorem find?_register_of_unknown
    {name : String}
    (notRoot : isRootName name = false)
    (unknown : journal.find? name = none)
    (other : String) :
    (journal.register name).find? other =
      if other = name then some (journal.newcomer name)
      else (journal.find? other).map (placeUnder name) := by
  have added : (journal.register name).loggers =
      journal.newcomer name :: journal.loggers.map (placeUnder name) := by
    simp [register, notRoot, unknown, newcomer]
  unfold find?
  rw [added, List.find?_cons]
  split
  · rename_i same
    have same : name = other := by simpa [newcomer, Logger.fresh] using same
    simp [same]
  · rename_i different
    have different : ¬other = name := by
      rintro rfl
      simp [newcomer, Logger.fresh] at different
    have sameNames : (fun logger : Logger => logger.name == other) ∘ placeUnder name =
        fun logger => logger.name == other := by
      funext logger
      rw [Function.comp_apply, name_placeUnder]
    rw [if_neg different, List.find?_map, sameNames]

/-- A name is unknown or the root logger's, or it is known. -/
theorem known_or_unknown (journal : Journal) (name : String) :
    (isRootName name = true ∨ (journal.find? name).isSome = true) ∨
      isRootName name = false ∧ journal.find? name = none := by
  cases isRootName name <;> cases journal.find? name <;> simp

/-- Once a logger is known, all loggers are as they were, but for what they lie under; and those
that lie under no other one now did so before. -/
theorem get_register (journal : Journal) (name other : String) :
    ∃ upper, (journal.register name).get other = { journal.get other with upper } ∧
      (upper = none → (journal.get other).upper = none) := by
  rcases known_or_unknown journal name with known | ⟨notRoot, unknown⟩
  · rw [register_of_known known]
    exact ⟨(journal.get other).upper, rfl, id⟩
  · cases isRoot : isRootName other with
    | true =>
        rw [get_of_isRootName isRoot, get_of_isRootName isRoot, root_register]
        exact ⟨journal.root.upper, rfl, id⟩
    | false =>
        have found := find?_register_of_unknown notRoot unknown other
        by_cases same : other = name
        · subst same
          rw [if_pos rfl] at found
          rw [get_of_find? isRoot found]
          refine ⟨(journal.newcomer other).upper, ?_, ?_⟩
          · simp [get, isRoot, unknown, newcomer]
          · simp [get, isRoot, unknown, Logger.fresh]
        · rw [if_neg same] at found
          cases earlier : journal.find? other with
          | none =>
              rw [earlier, Option.map_none] at found
              exact ⟨none, by simp [get, isRoot, found, earlier, Logger.fresh],
                by simp [get, isRoot, earlier, Logger.fresh]⟩
          | some logger =>
              rw [earlier, Option.map_some] at found
              obtain ⟨upper, placed, stays | ⟨moves, -⟩⟩ := placeUnder_eq name logger
              · rw [get_of_find? isRoot found, get_of_find? isRoot earlier, placed]
                exact ⟨upper, rfl, fun above => stays ▸ above⟩
              · rw [get_of_find? isRoot found, get_of_find? isRoot earlier, placed]
                refine ⟨upper, rfl, fun above => ?_⟩
                rw [above] at moves
                cases moves

end Registering

end Journal
end Headroom
