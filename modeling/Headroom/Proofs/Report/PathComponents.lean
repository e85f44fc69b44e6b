import Headroom.Proofs.Report.MountPoint
import Headroom.Proofs.Text.Rows
import Mathlib.Data.List.DropRight

/-!
# Mount points and path components

A path has components, and a mount point leads to every path whose components its own are
a beginning of.  What decides whether a mount point contains a path is not quite that: the
two are compared character by character, only trailing slashes of the mount point being
passed over.

The main statement says for which mount points the difference does not matter, whatever
list is made of them: those that lead to the path are written as the path begins, the
deeper ones at greater length, and the root as a single slash.
-/

namespace Headroom

/-- The components of a path: what stands between its slashes. -/
def components (path : Text) : List Text :=
  runs (· == slash) path

/-- The components of a mount point are the first ones of a path. -/
def Leads (mountPoint path : Text) : Prop :=
  components mountPoint <+: components path

instance (mountPoint path : Text) : Decidable (Leads mountPoint path) :=
  inferInstanceAs (Decidable (components mountPoint <+: components path))

/-- A mount point is written as a path begins, its trailing slashes not counted; if the path ends
there, it has none that the path has not. -/
structure WrittenAlike (mountPoint path : Text) : Prop where
  begins : withoutTrailingSlashes mountPoint <+: path
  ends : withoutTrailingSlashes mountPoint = path → mountPoint = path

section Runs

variable {α : Type} {separates : α → Bool} {item : α}

/-- A run that ends in an item goes on with what comes after the item. -/
theorem runsFrom_append_item
    (isItem : separates item = false)
    (begun before : List α) :
    ∃ closed carried, ∀ after,
      runsFrom separates begun (before ++ item :: after) =
        closed ++ runsFrom separates (item :: carried) after := by
  induction before generalizing begun with
  | nil => exact ⟨[], begun, fun after => runsFrom_item isItem begun after⟩
  | cons first rest inductionHypothesis =>
      cases firstSeparates : separates first with
      | true =>
          obtain ⟨closed, carried, continues⟩ := inductionHypothesis []
          refine ⟨closeRun begun ++ closed, carried, fun after => ?_⟩
          rw [List.cons_append, runsFrom_separator firstSeparates, runs, continues,
            List.append_assoc]
      | false =>
          obtain ⟨closed, carried, continues⟩ := inductionHypothesis (first :: begun)
          refine ⟨closed, carried, fun after => ?_⟩
          rw [List.cons_append, runsFrom_item firstSeparates, continues]

/-- A run that is begun is the beginning of the first run. -/
theorem exists_runsFrom_eq_cons
    (begun : List α)
    (item : α)
    (after : List α) :
    ∃ more others,
      runsFrom separates (item :: begun) after = (begun.reverse ++ item :: more) :: others := by
  induction after generalizing begun item with
  | nil => exact ⟨[], [], by simp⟩
  | cons next rest inductionHypothesis =>
      cases nextSeparates : separates next with
      | true => exact ⟨[], runs separates rest, by simp [runsFrom_separator nextSeparates]⟩
      | false =>
          obtain ⟨more, others, begins⟩ := inductionHypothesis (item :: begun) next
          exact ⟨next :: more, others, by simp [runsFrom_item nextSeparates, begins]⟩

/-- Where an item follows an item, the runs before are not the first of all runs. -/
theorem not_runs_isPrefix_of_item
    {next : α}
    (isItem : separates item = false)
    (nextIsItem : separates next = false)
    (before after : List α) :
    ¬runs separates (before ++ [item]) <+: runs separates (before ++ item :: next :: after) := by
  obtain ⟨closed, carried, continues⟩ := runsFrom_append_item isItem [] before
  obtain ⟨more, others, begins⟩ := exists_runsFrom_eq_cons (item :: carried) next after
  unfold runs
  rw [continues, continues, runsFrom_item nextIsItem, begins, runsFrom_nil, closeRun_cons,
    List.prefix_append_right_inj, List.cons_prefix_cons]
  rintro ⟨same, -⟩
  simpa using congrArg List.length same

end Runs

section Containment

variable {mountPoint path : Text}

/-- A path is what is left of it without its trailing slashes, and trailing slashes. -/
theorem exists_withoutTrailingSlashes_append (path : Text) :
    ∃ slashes, path = withoutTrailingSlashes path ++ slashes ∧
      ∀ point ∈ slashes, (point == slash) = true :=
  ⟨path.rtakeWhile (· == slash), List.rdropWhile_append_rtakeWhile.symm,
    fun _ present => List.mem_rtakeWhile_imp (p := (· == slash)) present⟩

theorem components_withoutTrailingSlashes (path : Text) :
    components (withoutTrailingSlashes path) = components path := by
  obtain ⟨slashes, path_eq, separators⟩ := exists_withoutTrailingSlashes_append path
  have same := runs_append_separators separators (withoutTrailingSlashes path)
  rw [← path_eq] at same
  exact same.symm

theorem contains_eq_true_iff :
    contains mountPoint path = true ↔
      path = mountPoint ∨ withoutTrailingSlashes mountPoint ++ [slash] <+: path := by
  simp [contains]

/-- A mount point that contains a path leads to it. -/
theorem leads_of_contains (contained : contains mountPoint path = true) :
    Leads mountPoint path := by
  rcases contains_eq_true_iff.mp contained with rfl | ⟨rest, rfl⟩
  · exact List.prefix_refl _
  · have split : components (withoutTrailingSlashes mountPoint ++ slash :: rest) =
        components (withoutTrailingSlashes mountPoint) ++ components rest :=
      runsFrom_append_separator (by simp) [] _ rest
    rw [Leads, List.append_assoc, List.singleton_append, split, components_withoutTrailingSlashes]
    exact List.prefix_append _ _

/-- What comes after the components of a mount point that leads to an absolute path and is written
like its beginning is a slash. -/
theorem head?_of_leads
    {rest : Text}
    {next : CodePoint}
    (absolute : path.head? = some slash)
    (leads : Leads mountPoint path)
    (path_eq : path = withoutTrailingSlashes mountPoint ++ next :: rest) :
    next = slash := by
  rw [Leads, ← components_withoutTrailingSlashes, path_eq] at leads
  rw [path_eq] at absolute
  by_contra other
  rcases List.eq_nil_or_concat (withoutTrailingSlashes mountPoint) with none | ⟨before, last, trunk_eq⟩
  · rw [none] at absolute
    exact other (Option.some.inj absolute)
  · have last_ne : (last == slash) = false := by
      have ends := List.rdropWhile_last_not (· == slash) mountPoint
      change ∀ nonempty, ¬((withoutTrailingSlashes mountPoint).getLast nonempty == slash) = true at ends
      simpa [trunk_eq] using ends
    rw [trunk_eq, List.concat_eq_append, List.append_assoc, List.singleton_append] at leads
    have next_ne : (next == slash) = false := by simpa using other
    have apart : ¬runs (· == slash) (before ++ [last]) <+:
        runs (· == slash) (before ++ last :: next :: rest) := by
      apply not_runs_isPrefix_of_item
      · exact last_ne
      · exact next_ne
    exact apart leads

/-- A mount point contains an absolute path exactly if it leads to the path and is written as the
path is. -/
theorem contains_eq_true_iff_leads (absolute : path.head? = some slash) :
    contains mountPoint path = true ↔ Leads mountPoint path ∧ WrittenAlike mountPoint path := by
  constructor
  · intro contained
    refine ⟨leads_of_contains contained, ?_⟩
    rcases contains_eq_true_iff.mp contained with rfl | longer
    · exact ⟨List.rdropWhile_prefix (· == slash) path, fun _ => rfl⟩
    · refine ⟨(List.prefix_append _ _).trans longer, fun same => ?_⟩
      have short := longer.length_le
      rw [same, List.length_append, List.length_singleton] at short
      omega
  · rintro ⟨leads, ⟨⟨rest, path_eq⟩, ends⟩⟩
    refine contains_eq_true_iff.mpr ?_
    cases rest with
    | nil =>
        rw [List.append_nil] at path_eq
        exact .inl (ends path_eq).symm
    | cons next others =>
        have next_eq := head?_of_leads absolute leads path_eq.symm
        refine .inr ⟨others, ?_⟩
        rw [← path_eq, next_eq, List.append_assoc, List.singleton_append]

end Containment

/-- Mount points are correlated with a path by its components: there is a mount point exactly if
one leads to the path, a deepest one of those is chosen, and the path lies on the root volume
exactly if none with a component leads to it. -/
structure RespectsComponents
    (path : Text)
    (mountPoints : List Text) : Prop where
  none_iff :
    mountPointFor? path mountPoints = none ↔
      ∀ mountPoint ∈ mountPoints, ¬Leads mountPoint path
  deepest :
    ∀ chosen, mountPointFor? path mountPoints = some chosen →
      chosen ∈ mountPoints ∧ Leads chosen path ∧
        ∀ other ∈ mountPoints, Leads other path →
          (components other).length ≤ (components chosen).length
  root_iff :
    isRootVolume path mountPoints = true ↔
      ∀ mountPoint ∈ mountPoints, components mountPoint ≠ [] → ¬Leads mountPoint path

/-- The mount points that lead to a path are written as the path is, the deeper ones at greater
length and the root as a single slash. -/
structure IsPlain
    (path : Text)
    (mountPoints : List Text) : Prop where
  written : ∀ mountPoint ∈ mountPoints, Leads mountPoint path → WrittenAlike mountPoint path
  ordered :
    ∀ mountPoint ∈ mountPoints, ∀ other ∈ mountPoints,
      Leads mountPoint path → Leads other path →
        (components mountPoint).length < (components other).length →
          mountPoint.length < other.length
  root : ∀ mountPoint ∈ mountPoints, components mountPoint = [] → mountPoint = [slash]

section Respecting

variable {path : Text} {mountPoints : List Text}

theorem IsPlain.mono
    {listed : List Text}
    (plain : IsPlain path mountPoints)
    (drawn : listed ⊆ mountPoints) :
    IsPlain path listed where
  written mountPoint present := plain.written mountPoint (drawn present)
  ordered mountPoint present other alsoPresent :=
    plain.ordered mountPoint (drawn present) other (drawn alsoPresent)
  root mountPoint present := plain.root mountPoint (drawn present)

/-- Among plain mount points those that lead to a path are those that contain it. -/
theorem IsPlain.leads_iff
    (absolute : path.head? = some slash)
    (plain : IsPlain path mountPoints)
    {mountPoint : Text}
    (present : mountPoint ∈ mountPoints) :
    Leads mountPoint path ↔ contains mountPoint path = true := by
  rw [contains_eq_true_iff_leads absolute]
  exact ⟨fun leads => ⟨leads, plain.written mountPoint present leads⟩, fun both => both.1⟩

/-- Plain mount points are correlated with a path by its components. -/
theorem IsPlain.respectsComponents
    (absolute : path.head? = some slash)
    (plain : IsPlain path mountPoints) :
    RespectsComponents path mountPoints := by
  have leads_iff {mountPoint : Text} (present : mountPoint ∈ mountPoints) :=
    plain.leads_iff absolute present
  have none_iff : mountPointFor? path mountPoints = none ↔
      ∀ mountPoint ∈ mountPoints, ¬Leads mountPoint path := by
    rw [mountPointFor?_eq_none_iff]
    refine forall₂_congr fun mountPoint present => ?_
    rw [leads_iff present, Bool.not_eq_true]
  have deepest (chosen : Text) (found : mountPointFor? path mountPoints = some chosen) :
      chosen ∈ mountPoints ∧ Leads chosen path ∧
        ∀ other ∈ mountPoints, Leads other path →
          (components other).length ≤ (components chosen).length := by
    obtain ⟨listed, contained, bounds⟩ := longest_of_mountPointFor? found
    have leads := leads_of_contains contained
    refine ⟨listed, leads, fun other present alsoLeads => ?_⟩
    by_contra deeper
    have longer := plain.ordered chosen listed other present leads alsoLeads (by omega)
    have short := bounds other present ((leads_iff present).mp alsoLeads)
    omega
  refine ⟨none_iff, deepest, ?_⟩
  unfold isRootVolume
  cases found : mountPointFor? path mountPoints with
  | none =>
      refine iff_of_true rfl fun mountPoint present _ => ?_
      exact none_iff.mp found mountPoint present
  | some chosen =>
      obtain ⟨listed, leads, bounds⟩ := deepest chosen found
      rw [beq_iff_eq]
      constructor
      · rintro rfl mountPoint present nonempty alsoLeads
        have depth := bounds mountPoint present alsoLeads
        have positive := List.length_pos_iff.mpr nonempty
        have root_depth : (components [slash]).length = 0 := rfl
        omega
      · intro onlyRoot
        by_contra notRoot
        have nonempty : components chosen ≠ [] := fun empty => notRoot (plain.root chosen listed empty)
        exact onlyRoot chosen listed nonempty leads

/-- A mount point by itself is correlated with a path by its components only if it is written as
the path is wherever it leads to the path. -/
theorem RespectsComponents.contains_of_leads
    {mountPoint : Text}
    (respects : RespectsComponents path [mountPoint])
    (leads : Leads mountPoint path) :
    contains mountPoint path = true := by
  by_contra uncontained
  have none : mountPointFor? path [mountPoint] = none :=
    mountPointFor?_eq_none_iff.mpr (by simpa using uncontained)
  exact respects.none_iff.mp none mountPoint List.mem_cons_self leads

/-- Of two mount points that contain a path the first one is chosen unless the second is longer. -/
theorem mountPointFor?_pair
    {first second : Text}
    (firstContains : contains first path = true)
    (secondContains : contains second path = true)
    (notLonger : second.length ≤ first.length) :
    mountPointFor? path [first, second] = some first := by
  simp [mountPointFor?, longerMountPoint, firstContains, secondContains, Nat.not_lt.mpr notLonger]

/-- Mount points are correlated with an absolute path by its components, whatever list is made of
them, exactly if they are plain. -/
theorem respectsComponents_iff_isPlain (absolute : path.head? = some slash) :
    (∀ listed, listed ⊆ mountPoints → RespectsComponents path listed) ↔
      IsPlain path mountPoints := by
  constructor
  · intro respects
    have single {mountPoint : Text} (present : mountPoint ∈ mountPoints) :
        RespectsComponents path [mountPoint] :=
      respects _ (by simpa using present)
    have contained {mountPoint : Text} (present : mountPoint ∈ mountPoints)
        (leads : Leads mountPoint path) : contains mountPoint path = true :=
      (single present).contains_of_leads leads
    refine ⟨fun mountPoint present leads => ?_, ?_, fun mountPoint present empty => ?_⟩
    · exact ((contains_eq_true_iff_leads absolute).mp (contained present leads)).2
    · intro mountPoint present other alsoPresent leads alsoLeads deeper
      by_contra notLonger
      have chosen := mountPointFor?_pair (contained present leads) (contained alsoPresent alsoLeads)
        (Nat.not_lt.mp notLonger)
      have pair := respects [mountPoint, other] (by simp [present, alsoPresent])
      have depth := (pair.deepest mountPoint chosen).2.2 other (by simp) alsoLeads
      omega
    · have leads : Leads mountPoint path := by
        rw [Leads, empty]
        exact List.nil_prefix
      have onRoot := (single present).root_iff.mpr (by simp [empty])
      have chosen : mountPointFor? path [mountPoint] = some mountPoint := by
        simp [mountPointFor?, longerMountPoint, contained present leads]
      rw [isRootVolume, chosen] at onRoot
      simpa using onRoot
  · intro plain listed drawn
    exact (plain.mono drawn).respectsComponents absolute

end Respecting

/-- The path with given components: each of them after a slash, the root being a slash alone. -/
def pathOf (components : List Text) : Text :=
  if components = [] then [slash] else components.flatMap (slash :: ·)

/-- A path in which every slash is followed by a component, the root apart. -/
def IsTidy (path : Text) : Prop :=
  pathOf (components path) = path

section Tidy

variable {path : Text} {mountPoints : List Text} {steps more : List Text}

theorem pathOf_isPrefix_append (steps more : List Text) :
    pathOf steps <+: pathOf (steps ++ more) := by
  unfold pathOf
  cases steps with
  | nil =>
      cases more with
      | nil => exact List.prefix_refl _
      | cons first rest => exact ⟨first ++ rest.flatMap (slash :: ·), by simp⟩
  | cons first rest => simp

/-- A path is longer than that of fewer components. -/
theorem length_pathOf_lt_append
    (extended : more ≠ [])
    (nonempty : ∀ step ∈ more, step ≠ []) :
    (pathOf steps).length < (pathOf (steps ++ more)).length := by
  obtain ⟨first, rest, rfl⟩ := List.exists_cons_of_ne_nil extended
  have positive := List.length_pos_iff.mpr (nonempty first List.mem_cons_self)
  cases steps with
  | nil =>
      simp [pathOf]
      omega
  | cons _ _ => simp [pathOf]

/-- A tidy mount point that leads to a path that begins tidily is a beginning of it. -/
theorem isPrefix_of_tidy
    {mountPoint : Text}
    (beginsTidily : pathOf (components path) <+: path)
    (tidy : IsTidy mountPoint)
    (leads : Leads mountPoint path) :
    mountPoint <+: path := by
  obtain ⟨more, components_eq⟩ := leads
  have begins := (pathOf_isPrefix_append (components mountPoint) more)
  rw [tidy, components_eq] at begins
  exact begins.trans beginsTidily

/-- A beginning of a path is written alike. -/
theorem writtenAlike_of_isPrefix
    {mountPoint : Text}
    (begins : mountPoint <+: path) :
    WrittenAlike mountPoint path where
  begins := (List.rdropWhile_prefix (· == slash) mountPoint).trans begins
  ends same := by
    have shorter : withoutTrailingSlashes mountPoint <+: mountPoint :=
      List.rdropWhile_prefix (· == slash) mountPoint
    rw [same] at shorter
    exact begins.eq_of_length_le shorter.length_le

/-- Tidy mount points are plain for a path that has no further slashes but at its end. -/
theorem isPlain_of_tidy
    (beginsTidily : pathOf (components path) <+: path)
    (tidy : ∀ mountPoint ∈ mountPoints, IsTidy mountPoint) :
    IsPlain path mountPoints where
  written mountPoint present leads :=
    writtenAlike_of_isPrefix (isPrefix_of_tidy beginsTidily (tidy mountPoint present) leads)
  ordered mountPoint present other alsoPresent leads alsoLeads deeper := by
    obtain ⟨more, other_eq⟩ :=
      List.prefix_of_prefix_length_le leads alsoLeads (Nat.le_of_lt deeper)
    have extended : more ≠ [] := by
      rintro rfl
      rw [List.append_nil] at other_eq
      rw [other_eq] at deeper
      omega
    have nonempty : ∀ step ∈ more, step ≠ [] := by
      intro step present
      have step_mem : step ∈ components other := by
        rw [← other_eq]
        exact List.mem_append_right _ present
      exact ne_nil_of_mem_runsFrom step_mem
    have longer : (pathOf (components mountPoint)).length <
        (pathOf (components mountPoint ++ more)).length :=
      length_pathOf_lt_append extended nonempty
    rwa [other_eq, tidy mountPoint present, tidy other alsoPresent] at longer
  root mountPoint present empty := by
    have same := tidy mountPoint present
    rw [IsTidy, empty] at same
    exact same.symm

end Tidy

/-- Mount points are correlated with an absolute path by its components, whatever list is made of
them, exactly if they are plain; and they are if they are tidy and the path has no further slashes
but at its end. -/
theorem respects_components_iff_plain
    {path : Text}
    (absolute : path.head? = some slash)
    (mountPoints : List Text) :
    ((∀ listed, listed ⊆ mountPoints → RespectsComponents path listed) ↔
        IsPlain path mountPoints) ∧
      (pathOf (components path) <+: path → (∀ mountPoint ∈ mountPoints, IsTidy mountPoint) →
        RespectsComponents path mountPoints) :=
  ⟨respectsComponents_iff_isPlain absolute, fun beginsTidily tidy =>
    (isPlain_of_tidy beginsTidily tidy).respectsComponents absolute⟩

/-- A path with a doubled slash, and one at its end. -/
def doubledPath : Text := Text.ofString "/var//lib/openebs/"

/-- Mount points that are written as that path begins, one of them with a slash at its end, and
one that does not lead there. -/
def plainMountPoints : List Text :=
  ["/", "/var/", "/var//lib", "/var//li"].map Text.ofString

/-- A path that is tidy but for the slash at its end. -/
def endedPath : Text := Text.ofString "/var/lib/"

/-- Tidy mount points, one of which begins like a component of that path. -/
def tidyMountPoints : List Text :=
  ["/var/li", "/", "/var"].map Text.ofString

theorem respects_components_iff_plain_doubled :
    (doubledPath.head? = some slash ∧ IsPlain doubledPath plainMountPoints ∧
      RespectsComponents doubledPath plainMountPoints ∧
      mountPointFor? doubledPath plainMountPoints = some (Text.ofString "/var//lib") ∧
      isRootVolume doubledPath plainMountPoints = false) ∧
    endedPath.head? = some slash ∧ pathOf (components endedPath) <+: endedPath ∧
      (∀ mountPoint ∈ tidyMountPoints, IsTidy mountPoint) ∧
      RespectsComponents endedPath tidyMountPoints ∧
      mountPointFor? endedPath tidyMountPoints = some (Text.ofString "/var") := by
  have absolute : doubledPath.head? = some slash := by decide
  have plain : IsPlain doubledPath plainMountPoints := by
    refine ⟨fun mountPoint present leads => ?_, by decide, by decide⟩
    have begins : ∀ mountPoint ∈ plainMountPoints, Leads mountPoint doubledPath →
        withoutTrailingSlashes mountPoint <+: doubledPath ∧
          withoutTrailingSlashes mountPoint ≠ doubledPath := by
      decide
    obtain ⟨before, shorter⟩ := begins mountPoint present leads
    exact ⟨before, fun same => absurd same shorter⟩
  have respects := (respects_components_iff_plain absolute plainMountPoints).1.mpr plain
  have alsoAbsolute : endedPath.head? = some slash := by decide
  have beginsTidily : pathOf (components endedPath) <+: endedPath := by decide
  have tidy : ∀ mountPoint ∈ tidyMountPoints, IsTidy mountPoint := by
    unfold IsTidy
    decide
  have alsoRespects :=
    (respects_components_iff_plain alsoAbsolute tidyMountPoints).2 beginsTidily tidy
  exact ⟨⟨absolute, plain, respects _ (List.Subset.refl _), by decide, by decide⟩,
    alsoAbsolute, beginsTidily, tidy, alsoRespects, by decide⟩

/-- A mount point with a slash at its end is not found for the path that it is. -/
theorem trailingSlash_hides_mountPoint :
    ¬RespectsComponents (Text.ofString "/var") (["/", "/var/"].map Text.ofString) := by
  intro respects
  have chosen : mountPointFor? (Text.ofString "/var") (["/", "/var/"].map Text.ofString) =
      some (Text.ofString "/") := by
    decide
  have depth := (respects.deepest _ chosen).2.2 (Text.ofString "/var/") (by decide) (by decide)
  exact absurd depth (by decide)

end Headroom
