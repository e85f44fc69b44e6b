import Headroom.Proofs.Journal.Kinship
import Mathlib.Data.List.Induction

/-!
# What the openings of loggers leave behind

A journal that is reached by opening loggers, and by writing records to the opened ones,
reflects the openings: the open loggers are those that were opened, and each has the level that
was last chosen for it, choices that are no level not counting.

What was found out about records stays right until levels change.  Only loggers that lie under
others can come to lie under new ones, so nothing else needs to be known about the ones that
lie under the root logger alone.
-/

namespace Headroom
namespace Journal

/-- The loggers of a journal have names of their own, and those above others are known. -/
structure IsOrderly (journal : Journal) : Prop where
  root_name : journal.root.name = rootName
  root_upper : journal.root.upper = none
  not_root : ∀ {name logger}, journal.find? name = some logger → isRootName name = false
  upper_known : ∀ {name logger upper}, journal.find? name = some logger →
    logger.upper = some upper → upper ≠ name ∧ (journal.find? upper).isSome = true

section Order

variable {journal : Journal} {name : String}

theorem IsOrderly.name_get
    (orderly : journal.IsOrderly)
    (name : String) :
    (journal.get name).name = properName name := by
  cases isRoot : isRootName name with
  | true => rw [get_of_isRootName isRoot, orderly.root_name, properName_of_isRootName isRoot]
  | false =>
      rw [properName_of_not_isRootName isRoot]
      cases found : journal.find? name with
      | none => simp [get, isRoot, found, Logger.fresh]
      | some logger => rw [get_of_find? isRoot found, name_of_find? found]

theorem IsOrderly.register
    (orderly : journal.IsOrderly)
    (name : String) :
    (journal.register name).IsOrderly := by
  rcases known_or_unknown journal name with known | ⟨notRoot, unknown⟩
  · rwa [register_of_known known]
  · have find?_eq := find?_register_of_unknown notRoot unknown
    have kept {other} (known : (journal.find? other).isSome = true) :
        ((journal.register name).find? other).isSome = true := by
      rw [find?_eq]
      split
      · rfl
      · rwa [Option.isSome_map]
    refine ⟨by simp [orderly.root_name], by simp [orderly.root_upper], ?_, ?_⟩
    · intro other logger found
      rw [find?_eq] at found
      split at found
      · rename_i same
        rw [same, notRoot]
      · obtain ⟨earlier, known, -⟩ := Option.map_eq_some_iff.mp found
        exact orderly.not_root known
    · intro other logger upper found above
      rw [find?_eq] at found
      split at found
      · rename_i same
        cases found
        have listed := List.mem_of_find?_eq_some above
        have known := List.find?_some above
        rw [same]
        exact ⟨ne_of_mem_namesOver listed, kept known⟩
      · obtain ⟨earlier, known, rfl⟩ := Option.map_eq_some_iff.mp found
        obtain ⟨place, placed, stays | ⟨moves, different⟩⟩ := placeUnder_eq name earlier
        · rw [placed] at above
          obtain ⟨different, alsoKnown⟩ := orderly.upper_known known (stays ▸ above)
          exact ⟨different, kept alsoKnown⟩
        · rw [placed] at above
          cases moves.symm.trans above
          refine ⟨fun same => different (same.trans (name_of_find? known).symm), ?_⟩
          rw [find?_eq, if_pos rfl]
          rfl

/-- A known logger may be put into its place with another level, or opened. -/
theorem IsOrderly.set
    (orderly : journal.IsOrderly)
    {logger : Logger}
    (known : isRootName name = true ∨ (journal.find? name).isSome = true)
    (name_eq : logger.name = properName name)
    (upper_eq : logger.upper = (journal.get name).upper) :
    (journal.set logger).IsOrderly := by
  cases isRoot : isRootName name with
  | true =>
      have set_eq : journal.set logger = { journal with root := logger } := by
        rw [Journal.set, name_eq, if_pos (by rw [isRootName_properName, isRoot])]
      rw [get_of_isRootName isRoot] at upper_eq
      rw [properName_of_isRootName isRoot] at name_eq
      rw [set_eq]
      exact ⟨name_eq, upper_eq.trans orderly.root_upper, orderly.not_root, orderly.upper_known⟩
  | false =>
      rw [properName_of_not_isRootName isRoot] at name_eq
      subst name_eq
      have root_eq := root_set_of_not_isRootName journal logger isRoot
      obtain ⟨earlier, found⟩ :=
        Option.isSome_iff_exists.mp (known.resolve_left (by simp [isRoot]))
      rw [get_of_find? isRoot found] at upper_eq
      have find?_eq := find?_set journal logger isRoot
      have kept {other} (known : (journal.find? other).isSome = true) :
          ((journal.set logger).find? other).isSome = true := by
        rw [find?_eq]
        split
        · rfl
        · exact known
      refine ⟨by rw [root_eq, orderly.root_name], by rw [root_eq, orderly.root_upper], ?_, ?_⟩
      · intro other candidate present
        rw [find?_eq] at present
        split at present
        · rename_i same
          rw [same, isRoot]
        · exact orderly.not_root present
      · intro other candidate upper present above
        rw [find?_eq] at present
        split at present
        · rename_i same
          cases present
          rw [upper_eq] at above
          obtain ⟨different, alsoKnown⟩ := orderly.upper_known found above
          rw [same]
          exact ⟨different, kept alsoKnown⟩
        · obtain ⟨different, alsoKnown⟩ := orderly.upper_known present above
          exact ⟨different, kept alsoKnown⟩

end Order

section Lineage

variable {journal : Journal} {name : String}

/-- Of loggers above a name there is always the root logger, and no other one of a name that is
unknown. -/
theorem lineage_of_upper_eq_none (apart : (journal.get name).upper = none) :
    journal.lineage name =
      if isRootName name = true ∨ journal.find? name = none then [journal.root]
      else [journal.get name, journal.root] := by
  have topmost (fuel : Nat) : journal.upwards fuel none = [journal.root] := by
    cases fuel <;> rfl
  unfold lineage
  cases isRoot : isRootName name with
  | true => simp [topmost]
  | false =>
      cases found : journal.find? name with
      | none =>
          cases journal.loggers.length <;> simp [upwards, found]
      | some logger =>
          rw [get_of_find? isRoot found] at apart ⊢
          have positive : 0 < journal.loggers.length :=
            List.length_pos_of_mem (List.mem_of_find?_eq_some found)
          obtain ⟨fuel, length_eq⟩ := Nat.exists_eq_add_of_lt positive
          rw [length_eq]
          simp [upwards, found, apart, topmost]

/-- A logger that lies under no other one takes records from its own level on, or from that of the
root logger if it has none. -/
theorem effectiveLevel_of_upper_eq_none (apart : (journal.get name).upper = none) :
    journal.effectiveLevel name =
      if (journal.get name).level.value = 0 then journal.root.level.value
      else (journal.get name).level.value := by
  unfold effectiveLevel
  rw [lineage_of_upper_eq_none apart]
  split
  · rename_i alone
    have own : journal.get name = journal.root ∨ (journal.get name).level.value = 0 := by
      cases isRoot : isRootName name with
      | true => exact .inl (get_of_isRootName isRoot)
      | false =>
          have unknown := alone.resolve_left (by simp [isRoot])
          exact .inr (by simp [get, isRoot, unknown, Logger.fresh, Level.named, LevelName.number])
    rcases own with isRoot | noLevel
    · rw [isRoot]
      by_cases zero : journal.root.level.value = 0 <;> simp [zero]
    · by_cases zero : journal.root.level.value = 0 <;> simp [noLevel, zero]
  · by_cases noLevel : (journal.get name).level.value = 0
    · by_cases zero : journal.root.level.value = 0 <;> simp [noLevel, zero]
    · simp [noLevel]

end Lineage

/-- A logger is opened by its name, and a level may be chosen for it. -/
structure Opening where
  name : String
  choice : Option LevelChoice
deriving DecidableEq, Repr

/-- The level that an opening gives, if its choice is one. -/
def Opening.level? (opening : Opening) : Option Level :=
  opening.choice.bind fun choice => choice.level.toOption

/-- A logger was opened, by whichever of its names. -/
def WasOpened
    (openings : List Opening)
    (name : String) : Prop :=
  ∃ opening ∈ openings, properName opening.name = properName name

instance
    (openings : List Opening)
    (name : String) :
    Decidable (WasOpened openings name) :=
  inferInstanceAs (Decidable (∃ opening ∈ openings, _))

/-- The level that a logger has at first. -/
def initialLevel (name : String) : Level :=
  .named (if isRootName name then .warning else .notset)

/-- The level that was last chosen for a logger; a choice that is no level leaves it as it is. -/
def chosenLevel
    (openings : List Opening)
    (name : String) : Level :=
  openings.foldl
    (fun level opening =>
      if properName name = properName opening.name then opening.level?.getD level else level)
    (initialLevel name)

section Openings

variable {openings : List Opening} {opening : Opening} {name : String}

theorem wasOpened_append_singleton :
    WasOpened (openings ++ [opening]) name ↔
      WasOpened openings name ∨ properName name = properName opening.name := by
  simp [WasOpened, or_and_right, exists_or, eq_comm]

theorem chosenLevel_append_singleton :
    chosenLevel (openings ++ [opening]) name =
      if properName name = properName opening.name
      then opening.level?.getD (chosenLevel openings name)
      else chosenLevel openings name := by
  simp [chosenLevel, List.foldl_append]

end Openings

/-- The journal in which a logger is open, at a new level if there is one. -/
def enrol
    (journal : Journal)
    (opening : Opening) : Journal :=
  let journal := journal.register opening.name
  let logger := journal.get opening.name
  journal.set { logger with isOpen := true, level := opening.level?.getD logger.level }

/-- Opening a logger enrols it; a level makes void what was found out, and a choice that is no
level is complained of. -/
theorem openLogger_cases (journal : Journal) (opening : Opening) :
    let opened := (journal.openLogger opening.name opening.choice).1
    (∃ level, opening.level? = some level ∧
        opened = { journal.enrol opening with decisions := [] }) ∨
      (opening.level? = none ∧
        (opened = journal.enrol opening ∨
          ∃ level message,
            opened = ((journal.enrol opening).write opening.name level message).1)) := by
  obtain ⟨name, choice⟩ := opening
  cases choice with
  | none => exact .inr ⟨rfl, .inl rfl⟩
  | some choice =>
      cases chosen : choice.level with
      | error text =>
          refine .inr ⟨?_, .inr ⟨.named .error, complaint text, ?_⟩⟩
          · simp [Opening.level?, chosen, Except.toOption]
          · simp [openLogger, writeNamed, enrol, Opening.level?, chosen, Except.toOption]
      | ok level =>
          refine .inl ⟨level, ?_, ?_⟩
          · simp [Opening.level?, chosen, Except.toOption]
          · simp [openLogger, enrol, Opening.level?, chosen, Except.toOption]

/-- A journal that reflects openings: its loggers are the opened ones, at the levels chosen for
them, and what was found out about those that lie under no other one is right. -/
structure Reflects
    (openings : List Opening)
    (journal : Journal) : Prop
    extends journal.IsOrderly where
  isOpen_iff : ∀ name, (journal.get name).isOpen = true ↔ WasOpened openings name
  isOpen_of_known : ∀ {name logger}, journal.find? name = some logger → logger.isOpen = true
  level_eq : ∀ name, (journal.get name).level = chosenLevel openings name
  decided : ∀ decision ∈ journal.decisions, (journal.get decision.name).upper = none →
    decision.takes = journal.takes decision.name decision.level

section Steps

variable {openings : List Opening} {journal : Journal}

theorem reflects_empty : Reflects [] .empty where
  root_name := rfl
  root_upper := rfl
  not_root := nofun
  upper_known := nofun
  isOpen_iff name := by
    cases isRoot : isRootName name <;>
      simp [WasOpened, get, isRoot, empty, find?, Logger.root, Logger.fresh]
  isOpen_of_known := nofun
  level_eq name := by
    cases isRoot : isRootName name <;>
      simp [chosenLevel, initialLevel, get, isRoot, empty, find?, Logger.root, Logger.fresh]
  decided := nofun

/-- A logger that was opened is known. -/
theorem Reflects.known_of_wasOpened
    (reflects : Reflects openings journal)
    {name : String}
    (wasOpened : WasOpened openings name) :
    isRootName name = true ∨ (journal.find? name).isSome = true := by
  rcases known_or_unknown journal name with known | ⟨notRoot, unknown⟩
  · exact known
  · have opened := (reflects.isOpen_iff name).mpr wasOpened
    simp [get, notRoot, unknown, Logger.fresh] at opened

/-- A name is known once it is registered. -/
theorem known_register (journal : Journal) (name : String) :
    isRootName name = true ∨ ((journal.register name).find? name).isSome = true := by
  rcases known_or_unknown journal name with known | ⟨notRoot, unknown⟩
  · rwa [register_of_known known]
  · rw [find?_register_of_unknown notRoot unknown, if_pos rfl]
    exact .inr rfl

/-- Registering a name makes no other logger known. -/
theorem known_of_register
    {name other : String}
    {logger : Logger}
    (found : (journal.register name).find? other = some logger)
    (different : other ≠ name) :
    ∃ earlier, journal.find? other = some earlier := by
  rcases known_or_unknown journal name with known | ⟨notRoot, unknown⟩
  · rw [register_of_known known] at found
    exact ⟨logger, found⟩
  · rw [find?_register_of_unknown notRoot unknown, if_neg different] at found
    obtain ⟨earlier, known, -⟩ := Option.map_eq_some_iff.mp found
    exact ⟨earlier, known⟩

/-- What a logger takes that lies under no other one depends on its own level and on that of the
root logger. -/
theorem takes_congr
    {other : Journal}
    {name : String}
    (apart : (journal.get name).upper = none)
    (alsoApart : (other.get name).upper = none)
    (levels : ∀ name, (journal.get name).level = (other.get name).level)
    (level : Int) :
    journal.takes name level = other.takes name level := by
  have root_level : journal.root.level = other.root.level := levels rootName
  unfold takes
  rw [effectiveLevel_of_upper_eq_none apart, effectiveLevel_of_upper_eq_none alsoApart, levels,
    root_level]

/-- Enrolling a logger opens it and gives it its level; other loggers keep both. -/
theorem get_enrol
    (orderly : journal.IsOrderly)
    (opening : Opening)
    (name : String) :
    ∃ upper,
      (journal.enrol opening).get name =
          (if properName name = properName opening.name then
            { journal.get name with
              upper
              isOpen := true
              level := opening.level?.getD (journal.get name).level }
          else { journal.get name with upper }) ∧
        (upper = none → (journal.get name).upper = none) := by
  have name_eq := (orderly.register opening.name).name_get opening.name
  obtain ⟨upper, registered, below⟩ := get_register journal opening.name name
  refine ⟨upper, ?_, below⟩
  unfold enrol
  rw [get_set, name_eq, properName_properName]
  split
  · rename_i same
    rw [← get_congr _ same, registered, ← same, ← orderly.name_get name]
  · exact registered

theorem IsOrderly.enrol
    (orderly : journal.IsOrderly)
    (opening : Opening) :
    (journal.enrol opening).IsOrderly := by
  have registered := orderly.register opening.name
  unfold Journal.enrol
  apply registered.set (known_register journal opening.name)
  · exact registered.name_get opening.name
  · rfl

/-- Enrolling a logger keeps all that is known about openings but what was found out. -/
theorem Reflects.enrol
    (reflects : Reflects openings journal)
    (opening : Opening) :
    (∀ name, ((journal.enrol opening).get name).isOpen = true ↔
        WasOpened (openings ++ [opening]) name) ∧
      (∀ {name logger}, (journal.enrol opening).find? name = some logger →
        logger.isOpen = true) ∧
      ∀ name, ((journal.enrol opening).get name).level =
        chosenLevel (openings ++ [opening]) name := by
  have orderly := reflects.toIsOrderly
  refine ⟨?_, ?_, ?_⟩
  · intro name
    obtain ⟨upper, enrolled, -⟩ := get_enrol orderly opening name
    rw [enrolled, wasOpened_append_singleton, ← reflects.isOpen_iff]
    split <;> simp [*]
  · intro name logger found
    have notRoot := (orderly.enrol opening).not_root found
    have got := get_of_find? notRoot found
    obtain ⟨upper, enrolled, -⟩ := get_enrol orderly opening name
    rw [got] at enrolled
    rw [enrolled]
    split
    · rfl
    · rename_i different
      have name_eq := (orderly.register opening.name).name_get opening.name
      rw [properName_of_not_isRootName notRoot] at different
      have unset : ((journal.register opening.name).find? name) = some logger := by
        rw [← found]
        apply (find?_set_of_ne _ _ ?_).symm
        rwa [name_eq]
      have other : name ≠ opening.name := by
        rintro rfl
        exact different (properName_of_not_isRootName notRoot).symm
      obtain ⟨earlier, known⟩ := known_of_register unset other
      have isOpen := reflects.isOpen_of_known known
      rw [get_of_find? notRoot known]
      exact isOpen
  · intro name
    obtain ⟨upper, enrolled, -⟩ := get_enrol orderly opening name
    rw [enrolled, chosenLevel_append_singleton, ← reflects.level_eq]
    split <;> rfl

/-- What was found out stays right while no levels change. -/
theorem Reflects.decided_enrol
    (reflects : Reflects openings journal)
    {opening : Opening}
    (unchanged : opening.level? = none) :
    ∀ decision ∈ (journal.enrol opening).decisions,
      ((journal.enrol opening).get decision.name).upper = none →
        decision.takes = (journal.enrol opening).takes decision.name decision.level := by
  intro decision listed apart
  have orderly := reflects.toIsOrderly
  rw [Journal.enrol, decisions_set, decisions_register] at listed
  have levels (name : String) :
      (journal.get name).level = ((journal.enrol opening).get name).level := by
    obtain ⟨upper, enrolled, -⟩ := get_enrol orderly opening name
    rw [enrolled, unchanged]
    split <;> rfl
  obtain ⟨upper, enrolled, below⟩ := get_enrol orderly opening decision.name
  have upper_eq : upper = none := by
    rw [enrolled] at apart
    split at apart <;> exact apart
  rw [reflects.decided decision listed (below upper_eq)]
  exact takes_congr (below upper_eq) apart levels decision.level

/-- A decision is about the logger and the level that were asked for, and it is right if the logger
lies under no other one. -/
theorem Reflects.decision_spec
    (reflects : Reflects openings journal)
    (name : String)
    (level : Int) :
    (journal.decision name level).name = properName name ∧
      (journal.decision name level).level = level ∧
      ((journal.get name).upper = none →
        (journal.decision name level).takes = journal.takes (properName name) level) := by
  unfold decision
  rw [reflects.name_get]
  dsimp only
  generalize found : journal.decisions.find? _ = prior
  cases prior with
  | none => exact ⟨rfl, rfl, fun _ => rfl⟩
  | some decision =>
      have listed := List.mem_of_find?_eq_some found
      have matching := List.find?_some found
      simp only [Bool.and_eq_true, beq_iff_eq] at matching
      obtain ⟨name_eq, level_eq⟩ := matching
      refine ⟨name_eq, level_eq, fun apart => ?_⟩
      have decided := reflects.decided decision listed
      rw [name_eq, level_eq, get_properName] at decided
      exact decided apart

/-- A record that is given to an opened logger changes nothing but what was found out. -/
theorem Reflects.write
    (reflects : Reflects openings journal)
    {name : String}
    (wasOpened : WasOpened openings name)
    (level : Level)
    (message : Text) :
    Reflects openings (journal.write name level message).1 := by
  have known := reflects.known_of_wasOpened wasOpened
  unfold Journal.write
  rw [register_of_known known]
  refine { reflects with decided := ?_ }
  intro decision listed apart
  -- The loggers are the same ones, so what they take is the same as well.
  have apartBefore : (journal.get decision.name).upper = none := apart
  refine Eq.trans ?_ (takes_congr apartBefore apart (fun _ => rfl) decision.level)
  rcases List.mem_cons.mp listed with rfl | earlier
  · obtain ⟨name_eq, level_eq, right⟩ := reflects.decision_spec name level.value
    rw [name_eq, get_properName] at apartBefore
    rw [name_eq, level_eq]
    exact right apartBefore
  · exact reflects.decided decision earlier apart

/-- A journal that is opened once more reflects that as well. -/
theorem Reflects.openLogger
    (reflects : Reflects openings journal)
    (opening : Opening) :
    Reflects (openings ++ [opening]) (journal.openLogger opening.name opening.choice).1 := by
  have orderly := reflects.toIsOrderly.enrol opening
  obtain ⟨isOpen_iff, isOpen_of_known, level_eq⟩ := reflects.enrol opening
  rcases openLogger_cases journal opening with ⟨level, chosen, opened⟩ | ⟨unchosen, opened⟩
  · rw [opened]
    exact { orderly with isOpen_iff, isOpen_of_known, level_eq, decided := nofun }
  · have enrolled : Reflects (openings ++ [opening]) (journal.enrol opening) :=
      { orderly with
        isOpen_iff, isOpen_of_known, level_eq
        decided := reflects.decided_enrol unchosen }
    rcases opened with opened | ⟨level, message, opened⟩
    · rwa [opened]
    · rw [opened]
      exact enrolled.write (wasOpened_append_singleton.mpr (.inr rfl)) level message

end Steps

/-- The journals that are reached by opening loggers and writing records to the opened ones. -/
inductive Reached : List Opening → Journal → Prop
  | empty : Reached [] .empty
  | opened
      {openings : List Opening}
      {journal : Journal}
      (earlier : Reached openings journal)
      (opening : Opening) :
      Reached (openings ++ [opening]) (journal.openLogger opening.name opening.choice).1
  | written
      {openings : List Opening}
      {journal : Journal}
      {name : String}
      (earlier : Reached openings journal)
      (wasOpened : WasOpened openings name)
      (level : Level)
      (message : Text) :
      Reached openings (journal.write name level message).1

/-- Journals that are reached reflect the openings by which they are. -/
theorem Reached.reflects
    {openings : List Opening}
    {journal : Journal}
    (reached : Reached openings journal) :
    Reflects openings journal := by
  induction reached with
  | empty => exact reflects_empty
  | opened _ opening inductionHypothesis => exact inductionHypothesis.openLogger opening
  | written _ wasOpened level message inductionHypothesis =>
      exact inductionHypothesis.write wasOpened level message

end Journal
end Headroom
