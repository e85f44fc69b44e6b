import Headroom.Probe.Checker
import Headroom.Proofs.Cluster.Request
import Headroom.Proofs.Probe.Protocol
import Headroom.Proofs.Quantity
import Mathlib.Algebra.Order.BigOperators.Group.List

/-!
# The space that volumes require

The required space is the sum of the whole bytes of the volumes of the source class.  Each volume
is rounded down by itself, so the sum falls short of what the volumes hold by all of their
fractions together: it covers the volumes if and only if each of them holds whole bytes.
-/

namespace Headroom
namespace Probe

open Cluster Action

/-- A volume of a class that holds a quantity of storage. -/
def Holds
    (storageClass : String)
    (volume : Volume)
    (quantity : String) : Prop :=
  ∃ spec, volume.spec = some spec ∧
    spec.storageClass = some storageClass ∧ spec.storage = some quantity

/-- The exact space that a volume takes up if it is of a class; other volumes take up none of it,
and neither do those that do not say what they hold. -/
def space
    (storageClass : String)
    (volume : Volume) : ℚ :=
  match volume.spec with
  | none => 0
  | some spec =>
    if spec.storageClass = some storageClass then
      (spec.storage.map fun quantity => Quantity.value quantity.toList).getD 0
    else 0

section Volumes

variable {storageClass : String} {volume : Volume}

theorem storageOf?_eq_some_iff {quantity : String} :
    Checker.storageOf? storageClass volume = some quantity ↔
      Holds storageClass volume quantity := by
  obtain ⟨name, _ | spec⟩ := volume
  · simp [Checker.storageOf?, Holds]
  · by_cases same : spec.storageClass = some storageClass <;>
      simp [Checker.storageOf?, Holds, same]

theorem space_of_holds
    {quantity : String}
    (holds : Holds storageClass volume quantity) :
    space storageClass volume = Quantity.value quantity.toList := by
  obtain ⟨spec, spec_eq, class_eq, storage_eq⟩ := holds
  simp [space, spec_eq, class_eq, storage_eq]

theorem space_eq_zero
    (without : ∀ quantity, ¬Holds storageClass volume quantity) :
    space storageClass volume = 0 := by
  unfold space
  split
  · rfl
  · rename_i spec spec_eq
    split
    · rename_i class_eq
      cases storage_eq : spec.storage with
      | none => rfl
      | some quantity => exact (without quantity ⟨spec, spec_eq, class_eq, storage_eq⟩).elim
    · rfl

end Volumes

section Totals

variable {storageClass : String} {volumes : List Volume}

theorem totalBytes_cons_eq_ok_iff
    {quantity : String}
    {others : List String}
    {total : Int} :
    Checker.totalBytes (quantity :: others) = .ok total ↔
      ∃ bytes rest, Quantity.bytes quantity.toList = .ok bytes ∧
        Checker.totalBytes others = .ok rest ∧ total = bytes + rest := by
  rw [Checker.totalBytes]
  cases Quantity.bytes quantity.toList with
  | error error => simp [bind, Except.bind]
  | ok bytes =>
      cases Checker.totalBytes others with
      | error error => simp [bind, Except.bind]
      | ok rest => simp [bind, Except.bind, pure, Except.pure, eq_comm]

/-- The quantities of volumes are summed up with each of them rounded down, unless one of them is
too great. -/
theorem totalBytes_eq_ok_iff
    (exact : ∀ volume ∈ volumes, ∀ quantity, Holds storageClass volume quantity →
      Quantity.IsExact quantity.toList)
    {total : Int} :
    Checker.totalBytes (volumes.filterMap (Checker.storageOf? storageClass)) = .ok total ↔
      (∀ volume ∈ volumes, ∀ quantity, Holds storageClass volume quantity →
        ¬Quantity.IsTooGreat quantity.toList) ∧
      total = (volumes.map fun volume => ⌊space storageClass volume⌋).sum := by
  induction volumes generalizing total with
  | nil => simp [Checker.totalBytes, eq_comm]
  | cons volume others inductionHypothesis =>
      obtain ⟨exactFirst, exactOthers⟩ := List.forall_mem_cons.mp exact
      have rest_iff {total : Int} :
          Checker.totalBytes (others.filterMap (Checker.storageOf? storageClass)) = .ok total ↔ _ :=
        inductionHypothesis exactOthers
      rw [List.forall_mem_cons, List.map_cons, List.sum_cons]
      cases holding : Checker.storageOf? storageClass volume with
      | none =>
          have without (quantity : String) : ¬Holds storageClass volume quantity := by
            rw [← storageOf?_eq_some_iff, holding]
            exact nofun
          rw [List.filterMap_cons_none holding, rest_iff, space_eq_zero without]
          simp [without]
      | some quantity =>
          have holds := storageOf?_eq_some_iff.mp holding
          have only {other : String} (alsoHolds : Holds storageClass volume other) :
              other = quantity := by
            rw [← storageOf?_eq_some_iff, holding] at alsoHolds
            exact (Option.some.inj alsoHolds).symm
          rw [List.filterMap_cons_some holding, totalBytes_cons_eq_ok_iff, space_of_holds holds]
          simp only [Quantity.bytes_eq_ok_iff (exactFirst quantity holds), rest_iff]
          constructor
          · rintro ⟨bytes, rest, ⟨fits, bytes_eq⟩, ⟨othersFit, rest_eq⟩, total_eq⟩
            rw [total_eq, bytes_eq, rest_eq]
            refine ⟨⟨?_, othersFit⟩, rfl⟩
            intro other alsoHolds
            rwa [only alsoHolds]
          · rintro ⟨⟨fits, othersFit⟩, total_eq⟩
            exact ⟨_, _, ⟨fits quantity holds, rfl⟩, ⟨othersFit, rfl⟩, total_eq⟩

end Totals

section Rounding

variable (storageClass : String) (volumes : List Volume)

/-- The fractions of volumes that are rounded down are missing from the sum. -/
theorem sum_space_eq :
    (volumes.map (space storageClass)).sum =
      (((volumes.map fun volume => ⌊space storageClass volume⌋).sum : Int) : ℚ) +
        (volumes.map fun volume => Int.fract (space storageClass volume)).sum := by
  induction volumes with
  | nil => simp
  | cons volume others inductionHypothesis =>
      have parts := Int.floor_add_fract (space storageClass volume)
      simp only [List.map_cons, List.sum_cons, inductionHypothesis]
      push_cast
      linarith

/-- Nothing is missing from the sum exactly if all volumes hold whole bytes. -/
theorem sum_space_le_iff :
    (volumes.map (space storageClass)).sum ≤
        (((volumes.map fun volume => ⌊space storageClass volume⌋).sum : Int) : ℚ) ↔
      ∀ volume ∈ volumes, ∃ bytes : Int, space storageClass volume = bytes := by
  have nonneg : ∀ missing ∈ volumes.map fun volume => Int.fract (space storageClass volume),
      0 ≤ missing := by
    intro missing listed
    obtain ⟨volume, -, rfl⟩ := List.mem_map.mp listed
    exact Int.fract_nonneg _
  rw [sum_space_eq, add_le_iff_nonpos_right]
  constructor
  · intro nothing volume listed
    have noFraction := List.all_zero_of_le_zero_le_of_sum_eq_zero nonneg
      (le_antisymm nothing (List.sum_nonneg nonneg)) (List.mem_map_of_mem listed)
    have space_eq := Int.floor_add_fract (space storageClass volume)
    rw [noFraction, add_zero] at space_eq
    exact ⟨⌊space storageClass volume⌋, space_eq.symm⟩
  · intro whole
    have noFractions : ∀ missing ∈ volumes.map fun volume => Int.fract (space storageClass volume),
        missing = 0 := by
      intro missing listed
      obtain ⟨volume, present, rfl⟩ := List.mem_map.mp listed
      obtain ⟨bytes, space_eq⟩ := whole volume present
      rw [space_eq, Int.fract_intCast]
    exact (List.sum_eq_zero noFractions).le

end Rounding

/-- Once the volumes are listed the answer is their sum, be it recorded or not. -/
theorem requiredSpace_eq_ok_iff
    {checker : Checker}
    {world : World}
    {volumes : List Volume}
    (listed : (world.respond .listVolumes).outcome = .answered volumes)
    {answer : Int} :
    (checker.requiredSpace.run world).1 = .ok answer ↔
      Checker.totalBytes (volumes.filterMap (Checker.storageOf? checker.sourceClass)) =
        .ok answer := by
  unfold Checker.requiredSpace
  rw [run_bind, run_request, listed]
  dsimp only [requested]
  cases Checker.totalBytes (volumes.filterMap (Checker.storageOf? checker.sourceClass)) with
  | error error => simp [run_throw]
  | ok total =>
      dsimp only
      rw [Except.ok.injEq]
      -- Writing a record changes the world and not the answer.
      cases Numeral.text? total with
      | some text =>
          change Except.ok total = .ok answer ↔ total = answer
          rw [Except.ok.injEq]
      | none =>
          change Except.ok total = .ok answer ↔ total = answer
          rw [Except.ok.injEq]

/-- A cluster that lists some volumes. -/
def listing (volumes : List Volume) : Script :=
  { routes := fun
      | .listVolumes => [{ argument := none, responses := [.immediate (.answered volumes)] }]
      | _ => [] }

/-- A volume of the class named "source". -/
def sourceVolume (quantity : String) : Volume :=
  { name := "volume"
    spec := some { storageClass := some "source", storage := some quantity, claim := none } }

theorem holds_sourceVolume
    {quantity other : String}
    (holds : Holds "source" (sourceVolume quantity) other) :
    other = quantity := by
  obtain ⟨spec, spec_eq, -, storage_eq⟩ := holds
  cases spec_eq
  cases storage_eq
  rfl

theorem space_sourceVolume (quantity : String) :
    space "source" (sourceVolume quantity) = Quantity.value quantity.toList :=
  space_of_holds ⟨_, rfl, rfl, rfl⟩

/-- The required space is what the volumes of the source class hold, each rounded down to whole
bytes, as long as no quantity is too great.  What it falls short of are the fractions of all
volumes, and so it covers the volumes exactly if there are none. -/
theorem requiredSpace_covers_iff
    {checker : Checker}
    {world : World}
    {volumes : List Volume}
    (listed : (world.respond .listVolumes).outcome = .answered volumes)
    (exact : ∀ volume ∈ volumes, ∀ quantity, Holds checker.sourceClass volume quantity →
      Quantity.IsExact quantity.toList) :
    let outcome := (checker.requiredSpace.run world).1
    let exactSpace := (volumes.map (space checker.sourceClass)).sum
    let total := (volumes.map fun volume => ⌊space checker.sourceClass volume⌋).sum
    (∀ answer, outcome = .ok answer ↔
      answer = total ∧
        ∀ volume ∈ volumes, ∀ quantity, Holds checker.sourceClass volume quantity →
          ¬Quantity.IsTooGreat quantity.toList) ∧
      exactSpace =
        total + (volumes.map fun volume => Int.fract (space checker.sourceClass volume)).sum ∧
      (exactSpace ≤ total ↔
        ∀ volume ∈ volumes, ∃ bytes : Int, space checker.sourceClass volume = bytes) := by
  intro outcome exactSpace total
  refine ⟨?_, sum_space_eq checker.sourceClass volumes,
    sum_space_le_iff checker.sourceClass volumes⟩
  intro answer
  rw [requiredSpace_eq_ok_iff listed, totalBytes_eq_ok_iff exact]
  exact And.comm

/-- Half a byte is missing if a volume holds it beside whole bytes. -/
theorem requiredSpace_covers_iff_halfByte :
    let volumes : List Volume :=
      [sourceVolume "1.5Ki", sourceVolume "500m", { name := "other", spec := none }]
    let world := World.start (listing volumes)
    (world.respond .listVolumes).outcome = .answered volumes ∧
      (∀ volume ∈ volumes, ∀ quantity, Holds "source" volume quantity →
        Quantity.IsExact quantity.toList) ∧
      (plainChecker.requiredSpace.run world).1 = .ok 1536 ∧
      (volumes.map (space "source")).sum = 1536 + 1 / 2 := by
  intro volumes world
  have exact : ∀ volume ∈ volumes, ∀ quantity, Holds "source" volume quantity →
      Quantity.IsExact quantity.toList ∧ ¬Quantity.IsTooGreat quantity.toList := by
    intro volume listed quantity holds
    simp only [volumes, List.mem_cons, List.not_mem_nil, or_false] at listed
    rcases listed with rfl | rfl | rfl
    · rw [holds_sourceVolume holds]
      exact ⟨Quantity.isExact_kibibytes, Quantity.not_isTooGreat_kibibytes⟩
    · rw [holds_sourceVolume holds]
      exact ⟨Quantity.isExact_halfByte, Quantity.not_isTooGreat_halfByte⟩
    · obtain ⟨spec, spec_eq, -⟩ := holds
      cases spec_eq
  have spaces : volumes.map (space "source") = [1536, 1 / 2, 0] := by
    simp only [volumes, List.map_cons, List.map_nil, space_sourceVolume, Quantity.value_kibibytes,
      Quantity.value_halfByte]
    rfl
  have listed : (world.respond .listVolumes).outcome = .answered volumes := rfl
  have allExact : ∀ volume ∈ volumes, ∀ quantity,
      Holds plainChecker.sourceClass volume quantity → Quantity.IsExact quantity.toList :=
    fun volume present quantity holds => (exact volume present quantity holds).1
  have noneTooGreat : ∀ volume ∈ volumes, ∀ quantity,
      Holds plainChecker.sourceClass volume quantity → ¬Quantity.IsTooGreat quantity.toList :=
    fun volume present quantity holds => (exact volume present quantity holds).2
  have total_eq : (1536 : Int) = (volumes.map fun volume => ⌊space "source" volume⌋).sum := by
    rw [← Function.comp_def, ← List.map_map, spaces]
    norm_num
  obtain ⟨answer_iff, -, -⟩ := requiredSpace_covers_iff listed allExact
  refine ⟨listed, allExact, (answer_iff 1536).mpr ⟨total_eq, noneTooGreat⟩, ?_⟩
  rw [spaces]
  norm_num

/-- Two halves of a byte make one, but none is required. -/
theorem requiredSpace_misses_halfBytes :
    let volumes := [sourceVolume "500m", sourceVolume "500m"]
    let world := World.start (listing volumes)
    (∀ volume ∈ volumes, ∀ quantity, Holds "source" volume quantity →
        Quantity.IsExact quantity.toList) ∧
      (plainChecker.requiredSpace.run world).1 = .ok 0 ∧
      (volumes.map (space "source")).sum = 1 := by
  intro volumes world
  have listed : (world.respond .listVolumes).outcome = .answered volumes := rfl
  refine ⟨?_, ?_, ?_⟩
  · intro volume present quantity holds
    simp only [volumes, List.mem_cons, List.not_mem_nil, or_false, or_self] at present
    subst present
    rw [holds_sourceVolume holds]
    exact Quantity.isExact_halfByte
  · rw [requiredSpace_eq_ok_iff listed]
    rfl
  · simp only [volumes, List.map_cons, List.map_nil, space_sourceVolume, Quantity.value_halfByte]
    norm_num

end Probe
end Headroom
