import Headroom.Proofs.StorageClass.BasePath
import Headroom.Proofs.Yaml.Document

/-!
# Configurations that settle the base path

A storage class gives an absolute base path or is rejected, unless something in its
configuration cannot be read although the text may be well formed.  Then neither happens.
-/

namespace Headroom
namespace StorageClass

/-- A base path is given, which is absolute, or the storage class is rejected. -/
def IsSettled (outcome : Except Error Text) : Prop :=
  (∃ path, outcome = .ok path ∧ path.startsWith '/' = true) ∨
    ∃ reason, outcome = .error (.rejected reason)

theorem isSettled_rejected (reason : Rejection) : IsSettled (.error (.rejected reason)) :=
  .inr ⟨reason, rfl⟩

theorem not_isSettled_undefinedScalar (fault : Yaml.Fault) :
    ¬IsSettled (.error (.undefinedScalar fault)) := by
  rintro (⟨_, given, _⟩ | ⟨_, rejected⟩)
  · cases given
  · cases rejected

theorem isSettled_basePathOfEntries (entries : List Entry) :
    IsSettled (basePathOfEntries entries) := by
  unfold basePathOfEntries
  split
  · exact isSettled_rejected _
  · rename_i path _
    split
    · rename_i absolute
      exact .inl ⟨path, rfl, absolute⟩
    · exact isSettled_rejected _

/-- Entries settle the base path exactly if the text of the configuration has nothing that cannot
be read. -/
theorem isSettled_entries_iff
    (limits : Yaml.Limits)
    (configuration : List Char) :
    IsSettled (do basePathOfEntries (← entries limits configuration)) ↔
      ∀ fault, Yaml.load limits configuration = .error fault →
        ¬Yaml.HasUnreadable limits configuration fault := by
  unfold entries
  cases loaded : Yaml.load limits configuration with
  | ok outline =>
      refine iff_of_true ?_ nofun
      dsimp only
      cases entriesOfOutline outline with
      | error issues => exact isSettled_rejected _
      | ok entries => exact isSettled_basePathOfEntries entries
  | error fault =>
      obtain rfl | unreadable := (Yaml.load_failsOnly limits configuration).of_error loaded
      · refine iff_of_true (isSettled_rejected _) ?_
        rintro _ ⟨⟩ unreadable
        exact unreadable.wellFormed rfl
      · refine iff_of_false ?_ fun readable => readable fault rfl unreadable
        cases fault with
        | malformed => exact (unreadable.wellFormed rfl).elim
        | _ => exact not_isSettled_undefinedScalar _

/-- Annotations settle the base path, unless they hold a configuration that cannot be loaded for
something in it that cannot be read, or because it goes deeper than reading may go. -/
theorem basePath_isSettled_iff
    (limits : Yaml.Limits)
    (annotations : Annotations) :
    IsSettled (basePath limits annotations) ↔
      ¬∃ configuration fault,
        (annotations.lookup configAnnotation).join = some configuration ∧
          Yaml.load limits configuration.toList = .error fault ∧
            Yaml.HasUnreadable limits configuration.toList fault := by
  unfold basePath
  split
  · rename_i missing
    refine iff_of_true (isSettled_rejected _) ?_
    rintro ⟨configuration, fault, found, _⟩
    cases missing.symm.trans found
  · rename_i configuration found
    rw [isSettled_entries_iff]
    constructor
    · rintro readable ⟨_, fault, found', failed, unreadable⟩
      cases found.symm.trans found'
      exact readable fault failed unreadable
    · intro none fault failed unreadable
      exact none ⟨configuration, fault, found, failed, unreadable⟩

/-- A day that its month does not have leaves the base path unsettled. -/
theorem basePath_unsettled_thirtiethOfFebruary :
    ¬IsSettled (basePath .usual (annotatedWith "- name: BasePath\n  value: 2024-02-30")) := by
  have unreadable :
      basePath .usual (annotatedWith "- name: BasePath\n  value: 2024-02-30") =
        .error (.undefinedScalar .noSuchDate) := by
    decide +kernel
  rw [unreadable]
  exact not_isSettled_undefinedScalar _

end StorageClass
end Headroom
