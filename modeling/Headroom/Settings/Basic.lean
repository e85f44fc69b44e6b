import Headroom.Schema.Datum

/-!
# Settings

The settings say what a check is called, what its probes run and where, which
storage class is left and which is entered, and how long to wait.  Each of them
has a name under which it may be given, and all but the two storage classes and
the cluster configuration have a value of their own if it is not.

What is given must make sense by itself: an image, a namespace or a class that
is given is not empty, a mount path is absolute, and times are greater than
zero.
-/

namespace Headroom

/-- The settings of a check. -/
structure Settings where
  applicationName : String
  probeImage : String
  sourceClass : Option String
  destinationClass : Option String
  probeNamespace : String
  mountPath : String
  /-- The seconds between two polls. -/
  pollInterval : Binary64
  /-- The seconds to wait for a volume to be gone. -/
  deletionTimeout : Binary64
  /-- The seconds to wait for a job. -/
  jobTimeout : Binary64
  /-- The file that says how to reach the cluster. -/
  clusterConfiguration : Option String
  /-- Whether nodes are checked at once. -/
  atOnce : Bool
deriving DecidableEq, Repr

namespace Settings

open Schema

/-- The names of the settings, in their order. -/
def names : List String := [
  "APP_NAME", "PROBE_IMAGE", "SRC_STORAGE_CLASS", "DST_STORAGE_CLASS", "PROBE_NAMESPACE",
  "PROBE_MOUNT_PATH", "POLL_INTERVAL", "DELETE_PV_TIMEOUT", "JOB_TIMEOUT", "KUBECONFIG",
  "MULTITHREADING"]

/-- A datum read as a string that is not empty. -/
def readNonEmpty (datum : Datum) : Except Problem String :=
  match datum.asString with
  | .error problem => .error problem
  | .ok value => if value = "" then .error .empty else .ok value

/-- A datum read as a string that is not empty, or as nothing. -/
def readNonEmptyOrNull : Datum → Except Problem (Option String)
  | .null => .ok none
  | datum => (readNonEmpty datum).map some

/-- A datum read as an absolute path. -/
def readAbsolutePath (datum : Datum) : Except Problem String :=
  match datum.asString with
  | .error problem => .error problem
  | .ok value => if value.toList.head? = some '/' then .ok value else .error (.relativePath value)

theorem ne_empty_of_readNonEmpty
    {datum : Datum}
    {value : String}
    (readable : readNonEmpty datum = .ok value) :
    value ≠ "" := by
  unfold readNonEmpty at readable
  split at readable
  · cases readable
  · split at readable
    · cases readable
    · cases readable
      assumption

theorem ne_empty_of_readNonEmptyOrNull
    {datum : Datum}
    {value : Option String}
    (readable : readNonEmptyOrNull datum = .ok value) :
    value ≠ some "" := by
  unfold readNonEmptyOrNull at readable
  split at readable
  · cases readable
    simp
  · cases outcome : readNonEmpty datum with
    | error problem => simp [outcome, Except.map] at readable
    | ok text =>
      simp only [outcome, Except.map, Except.ok.injEq] at readable
      simpa [← readable] using ne_empty_of_readNonEmpty outcome

theorem head?_of_readAbsolutePath
    {datum : Datum}
    {value : String}
    (readable : readAbsolutePath datum = .ok value) :
    value.toList.head? = some '/' := by
  unfold readAbsolutePath at readable
  split at readable
  · cases readable
  · split at readable
    · cases readable
      assumption
    · cases readable

/-- The pause between two polls when none is given. -/
def defaultPollInterval : Binary64 := .ofInt 2

/-- The time to wait for a job or a volume when none is given. -/
def defaultTimeout : Binary64 := .ofInt 300

/-- The settings that a record describes. -/
def ofFields (fields : Fields) : Checked Settings :=
  let applicationName := fields.optional "APP_NAME" "cluster-space-checker" Datum.asString
  let probeImage := fields.optional "PROBE_IMAGE" "busybox:1.36" readNonEmpty
  let sourceClass := fields.optional "SRC_STORAGE_CLASS" none readNonEmptyOrNull
  let destinationClass := fields.optional "DST_STORAGE_CLASS" none readNonEmptyOrNull
  let probeNamespace := fields.optional "PROBE_NAMESPACE" "default" readNonEmpty
  let mountPath := fields.optional "PROBE_MOUNT_PATH" "/data" readAbsolutePath
  let pollInterval := fields.optional "POLL_INTERVAL" defaultPollInterval Datum.asPositive
  let deletionTimeout := fields.optional "DELETE_PV_TIMEOUT" defaultTimeout Datum.asPositive
  let jobTimeout := fields.optional "JOB_TIMEOUT" defaultTimeout Datum.asPositive
  let clusterConfiguration := fields.optional "KUBECONFIG" none readNonEmptyOrNull
  let atOnce := fields.optional "MULTITHREADING" false Datum.asTruth
  ((((((((((Checked.apply (.ok Settings.mk) applicationName).apply probeImage).apply
    sourceClass).apply destinationClass).apply probeNamespace).apply mountPath).apply
    pollInterval).apply deletionTimeout).apply jobTimeout).apply clusterConfiguration).apply atOnce

end Settings
end Headroom
