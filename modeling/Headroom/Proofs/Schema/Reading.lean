import Headroom.Proofs.Text.Utf8
import Headroom.Schema.Datum
import Mathlib.Data.List.Forall2

/-!
# What is accepted

A reading accepts what all of its parts accept: a list if each item of it is accepted, a
record if its fields are.  A field that must be present is accepted if it is there and
readable; one that may be absent is also accepted then, and stands for its default.

A datum is accepted as a text exactly if it spells one.
-/

namespace Headroom
namespace Schema

variable {α : Type}

namespace Checked

theorem atField_eq_ok_iff
    {name : String}
    {reading : Except Problem α}
    {value : α} :
    Checked.atField name reading = .ok value ↔ reading = .ok value := by
  cases reading <;> simp [Checked.atField, Except.mapError]

theorem inside_eq_ok_iff
    {step : Step}
    {checked : Checked α}
    {value : α} :
    Checked.inside step checked = .ok value ↔ checked = .ok value := by
  cases checked <;> simp [Checked.inside, Except.mapError]

theorem provided_eq_ok_iff
    {checked : Checked α}
    {others : List Issue}
    {value : α} :
    checked.provided others = .ok value ↔ checked = .ok value ∧ others = [] := by
  cases checked <;> cases others <;> simp [Checked.provided]

/-- A list is accepted as the list of what its items are accepted as. -/
theorem sequence_eq_ok_iff
    {checked : List (Checked α)}
    {values : List α} :
    Checked.sequence checked = .ok values ↔ List.Forall₂ (· = .ok ·) checked values := by
  induction checked generalizing values with
  | nil =>
      rw [List.forall₂_nil_left_iff, Checked.sequence, Except.ok.injEq]
      exact eq_comm
  | cons first rest inductionHypothesis =>
      simp only [Checked.sequence, apply_eq_ok_iff, Except.ok.injEq, inductionHypothesis,
        List.forall₂_cons_left_iff]
      constructor
      · rintro ⟨_, others, ⟨_, value, rfl, first_eq, rfl⟩, rest_eq, rfl⟩
        exact ⟨value, others, first_eq, rest_eq, rfl⟩
      · rintro ⟨value, others, first_eq, rest_eq, rfl⟩
        exact ⟨_, others, ⟨_, value, rfl, first_eq, rfl⟩, rest_eq, rfl⟩

end Checked

namespace Fields

variable {fields : Fields} {name : String} {default value : α} {read : Datum → Except Problem α}

theorem required_eq_ok_iff :
    fields.required name read = .ok value ↔
      ∃ datum, fields.find? name = some datum ∧ read datum = .ok value := by
  rw [Fields.required, Checked.atField_eq_ok_iff]
  cases fields.find? name <;> simp

theorem optional_eq_ok_iff :
    fields.optional name default read = .ok value ↔
      (fields.find? name = none ∧ value = default) ∨
        ∃ datum, fields.find? name = some datum ∧ read datum = .ok value := by
  rw [Fields.optional, Checked.atField_eq_ok_iff]
  cases fields.find? name <;> simp [eq_comm]

/-- The value of an optional field has every property that its default and all readings have. -/
theorem optional_induction
    (property : α → Prop)
    (found : fields.optional name default read = .ok value)
    (of_default : property default)
    (of_read : ∀ datum reading, read datum = .ok reading → property reading) :
    property value := by
  rcases optional_eq_ok_iff.mp found with ⟨-, rfl⟩ | ⟨datum, -, readable⟩
  · exact of_default
  · exact of_read datum value readable

end Fields

/-- A text is spelled by itself and by the bytes that encode it. -/
inductive Spells : Datum → Text → Prop
  | text (text : Text) : Spells (.text text) text
  | bytes (chars : List Char) : Spells (.bytes (Utf8.encode chars)) (Text.ofChars chars)

/-- What is accepted as a text is what spells it. -/
theorem Datum.asText_eq_ok_iff
    {datum : Datum}
    {text : Text} :
    datum.asText = .ok text ↔ Spells datum text := by
  constructor
  · intro read
    cases datum with
    | text value =>
        obtain rfl := Except.ok.inj read
        exact .text value
    | bytes value =>
        cases decoded : Utf8.decode? value with
        | none => simp [Datum.asText, decoded] at read
        | some chars =>
            rw [Datum.asText, decoded] at read
            obtain rfl := Except.ok.inj read
            obtain rfl := Utf8.decode?_eq_some_iff.mp decoded
            exact .bytes chars
    | _ => cases read
  · rintro (value | chars)
    · rfl
    · rw [Datum.asText, Utf8.decode?_eq_some_iff.mpr rfl]
      rfl

end Schema
end Headroom
