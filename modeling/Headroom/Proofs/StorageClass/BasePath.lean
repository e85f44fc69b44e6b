import Headroom.Proofs.Schema.Reading
import Headroom.StorageClass.BasePath

/-!
# The base path that a configuration gives

What is accepted as an entry is said here without reference to how it is read: a record
whose name is spelled, and whose value is spelled, too, or is a number or a truth value to
be written out.

A document whose items are all accepted gives the value of the first entry that is named
for the base path; one item that is not accepted spoils the whole document.
-/

namespace Headroom

namespace Entry

open Schema

/-- A datum is written out as a text: truth values as words, integers unless they are too long,
numbers, and whatever spells a text. -/
inductive WrittenAs : Datum → Text → Prop
  | truth (value : Bool) :
      WrittenAs (.truth value) (Text.ofString (if value then "True" else "False"))
  | integer
      (value : Int)
      (writable : Numeral.isWritable value = true) :
      WrittenAs (.integer value) (Text.ofString (toString value))
  | real (value : Binary64) : WrittenAs (.real value) (Text.ofChars value.text)
  | spelled
      {datum : Datum}
      {text : Text}
      (spells : Spells datum text) :
      WrittenAs datum text

/-- A record describes an entry: its name spells that of the entry, and its value is written out as
that of the entry, which is empty if there is none. -/
structure DescribedBy
    (fields : Fields)
    (entry : Entry) : Prop where
  name : ∃ datum, fields.find? "name" = some datum ∧ Spells datum entry.name
  value :
    (fields.find? "value" = none ∧ entry.value = []) ∨
      ∃ datum, fields.find? "value" = some datum ∧ WrittenAs datum entry.value

/-- An item of a list is accepted as an entry: it is a record that describes it. -/
def Accepts
    (item : Option Fields)
    (entry : Entry) : Prop :=
  ∃ fields, item = some fields ∧ DescribedBy fields entry

/-- Every item of an accepted list is accepted as some entry. -/
theorem exists_accepts_of_mem
    {items : List (Option Fields)}
    {entries : List Entry}
    {item : Option Fields}
    (accepted : List.Forall₂ Accepts items entries)
    (present : item ∈ items) :
    ∃ entry, Accepts item entry := by
  induction accepted with
  | nil => cases present
  | cons accepts others inductionHypothesis =>
      rcases List.mem_cons.mp present with rfl | later
      · exact ⟨_, accepts⟩
      · exact inductionHypothesis later

/-- A value is that of the first entry with a given name. -/
def IsFirst
    (name value : Text)
    (entries : List Entry) : Prop :=
  ∃ before entry after, entries = before ++ entry :: after ∧
    entry.name = name ∧ entry.value = value ∧
      ∀ earlier ∈ before, earlier.name ≠ name

section Reading

variable {datum : Datum} {text : Text} {fields : Fields} {entry : Entry}

theorem readValue_eq_ok_iff : readValue datum = .ok text ↔ WrittenAs datum text := by
  constructor
  · intro read
    cases datum with
    | truth value =>
        obtain rfl := Except.ok.inj read
        exact .truth value
    | integer value =>
        by_cases writable : Numeral.isWritable value = true
        · simp only [readValue, integerText, Numeral.text?, writable, if_true] at read
          obtain rfl := Except.ok.inj read
          exact .integer value writable
        · simp [readValue, integerText, Numeral.text?, writable] at read
    | real value =>
        obtain rfl := Except.ok.inj read
        exact .real value
    | null | text _ | bytes _ | composite => exact .spelled (Datum.asText_eq_ok_iff.mp read)
  · rintro (value | ⟨value, writable⟩ | value | ⟨value | chars⟩)
    · rfl
    · simp [readValue, integerText, Numeral.text?, writable]
    · rfl
    · rfl
    · exact Datum.asText_eq_ok_iff.mpr (.bytes chars)

/-- A record is read as the entry that it describes. -/
theorem ofFields_eq_ok_iff : ofFields fields = .ok entry ↔ DescribedBy fields entry := by
  simp only [ofFields, Checked.apply_eq_ok_iff, Except.ok.injEq, Fields.required_eq_ok_iff,
    Fields.optional_eq_ok_iff, Datum.asText_eq_ok_iff, readValue_eq_ok_iff]
  constructor
  · rintro ⟨_, value, ⟨_, name, rfl, named, rfl⟩, valued, rfl⟩
    exact ⟨named, valued⟩
  · rintro ⟨named, valued⟩
    exact ⟨_, entry.value, ⟨_, entry.name, rfl, named, rfl⟩, valued, rfl⟩

/-- What is looked up is the value of the first entry with the name. -/
theorem lookup?_eq_some_iff
    {name value : Text}
    {entries : List Entry} :
    lookup? name entries = some value ↔ IsFirst name value entries := by
  rw [lookup?, Option.map_eq_some_iff]
  simp only [List.find?_eq_some_iff_append, beq_iff_eq, Bool.not_eq_true', beq_eq_false_iff_ne]
  constructor
  · rintro ⟨entry, ⟨named, before, after, divided, others⟩, valued⟩
    exact ⟨before, entry, after, divided, named, valued, others⟩
  · rintro ⟨before, entry, after, divided, named, valued, others⟩
    exact ⟨entry, ⟨named, before, after, divided, others⟩, valued⟩

end Reading
end Entry

namespace StorageClass

open Schema

/-- The items that a document lists; an empty document lists none. -/
inductive Lists : Yaml.Outline → List (Option Fields) → Prop
  | empty : Lists .empty []
  | items (items : List (Option Fields)) : Lists (.items items) items

section Entries

variable {outline : Yaml.Outline} {items : List (Option Fields)} {entries : List Entry}

theorem entryAt_eq_ok_iff
    {index : Nat}
    {item : Option Fields}
    {entry : Entry} :
    entryAt index item = .ok entry ↔ Entry.Accepts item entry := by
  cases item with
  | none => simp [entryAt, Entry.Accepts]
  | some fields =>
      rw [entryAt, Checked.inside_eq_ok_iff, Entry.ofFields_eq_ok_iff]
      simp [Entry.Accepts]

/-- A document is accepted if it is a list of items that are. -/
theorem entriesOfOutline_eq_ok_iff :
    entriesOfOutline outline = .ok entries ↔
      ∃ items, Lists outline items ∧ List.Forall₂ Entry.Accepts items entries := by
  constructor
  · intro read
    cases outline with
    | empty =>
        obtain rfl := Except.ok.inj read
        exact ⟨[], .empty, .nil⟩
    | other => cases read
    | items items =>
        refine ⟨items, .items items, ?_⟩
        rw [entriesOfOutline, Checked.sequence_eq_ok_iff, List.forall₂_map_left_iff] at read
        simp only [entryAt_eq_ok_iff] at read
        rwa [← List.zipIdx_map_fst 0 items, List.forall₂_map_left_iff]
  · rintro ⟨items, listed | listed, accepted⟩
    · rw [List.forall₂_nil_left_iff.mp accepted]
      rfl
    · rw [← List.zipIdx_map_fst 0 items, List.forall₂_map_left_iff] at accepted
      rw [entriesOfOutline, Checked.sequence_eq_ok_iff, List.forall₂_map_left_iff]
      simpa only [entryAt_eq_ok_iff] using accepted

end Entries

section BasePath

variable
  {limits : Yaml.Limits}
  {annotations : Annotations}
  {configuration : String}
  {outline : Yaml.Outline}
  {entries : List Entry}
  {path : Text}

/-- Entries give the value of the first one that is named for the base path, if it is absolute. -/
theorem basePathOfEntries_eq_ok_iff :
    basePathOfEntries entries = .ok path ↔
      Entry.IsFirst basePathName path entries ∧ path.startsWith '/' = true := by
  rw [← Entry.lookup?_eq_some_iff, basePathOfEntries]
  cases Entry.lookup? basePathName entries with
  | none => simp
  | some value =>
      by_cases absolute : value.startsWith '/' = true
      · simp only [absolute, if_true, Except.ok.injEq, Option.some.injEq]
        constructor
        · rintro rfl
          exact ⟨rfl, absolute⟩
        · exact fun both => both.1
      · simp only [absolute, Option.some.injEq]
        constructor
        · nofun
        · rintro ⟨rfl, begins⟩
          exact absurd begins absolute

/-- A configuration that is read gives the base path of its entries. -/
theorem basePath_of_entriesOfOutline
    (configured : (annotations.lookup configAnnotation).join = some configuration)
    (loaded : Yaml.load limits configuration.toList = .ok outline)
    (read : entriesOfOutline outline = .ok entries) :
    basePath limits annotations = basePathOfEntries entries := by
  simp [basePath, configured, StorageClass.entries, loaded, read, bind, Except.bind]

/-- A configuration whose items are not all accepted gives no base path. -/
theorem basePath_of_issues
    {issues : List Issue}
    (configured : (annotations.lookup configAnnotation).join = some configuration)
    (loaded : Yaml.load limits configuration.toList = .ok outline)
    (refused : entriesOfOutline outline = .error issues) :
    basePath limits annotations = .error (.rejected (.unreadable (.issues issues))) := by
  simp [basePath, configured, StorageClass.entries, loaded, refused, bind, Except.bind]

/-- The base path that a document gives.  It is the value of the first entry that is named for the
base path, if every item of the document is accepted as an entry and that value is absolute.  A
document that is no list, or one of whose items is not accepted, is unreadable wherever that item
stands.  Nothing but the first such entry counts. -/
theorem basePath_from_accepted_entries
    (configured : (annotations.lookup configAnnotation).join = some configuration)
    (loaded : Yaml.load limits configuration.toList = .ok outline) :
    (∀ path, basePath limits annotations = .ok path ↔
        ∃ items entries, Lists outline items ∧ List.Forall₂ Entry.Accepts items entries ∧
          Entry.IsFirst basePathName path entries ∧ path.startsWith '/' = true) ∧
      ((∀ items, Lists outline items → ∃ item ∈ items, ∀ entry, ¬Entry.Accepts item entry) →
        ∃ issues, basePath limits annotations = .error (.rejected (.unreadable (.issues issues)))) ∧
      ∀ items before first after, Lists outline items →
        List.Forall₂ Entry.Accepts items (before ++ first :: after) →
        first.name = basePathName → (∀ earlier ∈ before, earlier.name ≠ basePathName) →
          basePath limits annotations =
            if first.value.startsWith '/' then .ok first.value
            else .error (.rejected (.basePathRelative first.value)) := by
  refine ⟨fun path => ⟨fun given => ?_, ?_⟩, fun spoiled => ?_, ?_⟩
  · cases read : entriesOfOutline outline with
    | error issues =>
        rw [basePath_of_issues configured loaded read] at given
        cases given
    | ok entries =>
        rw [basePath_of_entriesOfOutline configured loaded read] at given
        obtain ⟨items, listed, accepted⟩ := entriesOfOutline_eq_ok_iff.mp read
        exact ⟨items, entries, listed, accepted, basePathOfEntries_eq_ok_iff.mp given⟩
  · rintro ⟨items, entries, listed, accepted, first, absolute⟩
    have read := entriesOfOutline_eq_ok_iff.mpr ⟨items, listed, accepted⟩
    rw [basePath_of_entriesOfOutline configured loaded read]
    exact basePathOfEntries_eq_ok_iff.mpr ⟨first, absolute⟩
  · cases read : entriesOfOutline outline with
    | error issues => exact ⟨issues, basePath_of_issues configured loaded read⟩
    | ok entries =>
        obtain ⟨items, listed, accepted⟩ := entriesOfOutline_eq_ok_iff.mp read
        obtain ⟨item, present, unaccepted⟩ := spoiled items listed
        obtain ⟨entry, accepts⟩ := Entry.exists_accepts_of_mem accepted present
        exact (unaccepted entry accepts).elim
  · intro items before first after listed accepted named others
    have read := entriesOfOutline_eq_ok_iff.mpr ⟨items, listed, accepted⟩
    have found : Entry.lookup? basePathName (before ++ first :: after) = some first.value :=
      Entry.lookup?_eq_some_iff.mpr ⟨before, first, after, rfl, named, rfl, others⟩
    rw [basePath_of_entriesOfOutline configured loaded read, basePathOfEntries, found]

end BasePath

/-- Annotations that hold a configuration behind something else. -/
def annotatedWith (configuration : String) : Annotations :=
  [Prod.mk "other" none, Prod.mk configAnnotation (some configuration)]

theorem lookup_annotatedWith (configuration : String) :
    ((annotatedWith configuration).lookup configAnnotation).join = some configuration := by
  simp [annotatedWith, List.lookup_cons, configAnnotation]

/-- A configuration with a number for a value, a name in base sixty-four, a further field, a second
base path and an entry without a value. -/
def mixedConfiguration : String :=
  "- name: Retries\n  value: 3\n- name: !!binary QmFzZVBhdGg=\n  value: /var/local\n" ++
    "  note: [1, 2]\n- name: BasePath\n  value: /ignored\n- name: Debug"

/-- The entries that it describes. -/
def mixedEntries : List Entry :=
  [("Retries", "3"), ("BasePath", "/var/local"), ("BasePath", "/ignored"), ("Debug", "")].map
    fun (name, value) => ⟨Text.ofString name, Text.ofString value⟩

/-- The outline of its document. -/
def mixedOutline : Yaml.Outline :=
  .items
    [some [("name", .text (Text.ofString "Retries")), ("value", .integer 3)],
      some [("name", .bytes (Utf8.encode "BasePath".toList)),
        ("value", .text (Text.ofString "/var/local")), ("note", .composite)],
      some [("name", .text basePathName), ("value", .text (Text.ofString "/ignored"))],
      some [("name", .text (Text.ofString "Debug"))]]

/-- A configuration in which a number stands behind the entry of the base path. -/
def spoiledConfiguration : String :=
  "- name: BasePath\n  value: /var/local\n- 3"

/-- The outline of its document. -/
def spoiledOutline : Yaml.Outline :=
  .items
    [some [("name", .text basePathName), ("value", .text (Text.ofString "/var/local"))], none]

theorem basePath_from_accepted_entries_mixed :
    (Yaml.load .usual mixedConfiguration.toList = .ok mixedOutline ∧
      basePath .usual (annotatedWith mixedConfiguration) = .ok (Text.ofString "/var/local")) ∧
    Yaml.load .usual spoiledConfiguration.toList = .ok spoiledOutline ∧
      ∃ issues, basePath .usual (annotatedWith spoiledConfiguration) =
        .error (.rejected (.unreadable (.issues issues))) := by
  have loaded : Yaml.load .usual mixedConfiguration.toList = .ok mixedOutline := by decide +kernel
  have read : entriesOfOutline mixedOutline = .ok mixedEntries := by decide +kernel
  obtain ⟨items, listed, accepted⟩ := entriesOfOutline_eq_ok_iff.mp read
  have first : Entry.IsFirst basePathName (Text.ofString "/var/local") mixedEntries :=
    ⟨[⟨Text.ofString "Retries", Text.ofString "3"⟩], ⟨basePathName, Text.ofString "/var/local"⟩, _,
      rfl, rfl, rfl, by decide⟩
  have configured := lookup_annotatedWith mixedConfiguration
  have given := (basePath_from_accepted_entries configured loaded).1 (Text.ofString "/var/local")
  have spoiledLoaded : Yaml.load .usual spoiledConfiguration.toList = .ok spoiledOutline := by
    decide +kernel
  have spoiledConfigured := lookup_annotatedWith spoiledConfiguration
  have refused := (basePath_from_accepted_entries spoiledConfigured spoiledLoaded).2.1
  refine ⟨⟨loaded, given.mpr ⟨items, mixedEntries, listed, accepted, first, by decide⟩⟩,
    spoiledLoaded, refused fun items listed => ?_⟩
  cases listed
  exact ⟨none, by simp, fun entry accepts => by simp [Entry.Accepts] at accepts⟩

end StorageClass
end Headroom
