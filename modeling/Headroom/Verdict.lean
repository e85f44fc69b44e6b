import Headroom.Schema.Datum

/-!
# Samples and verdicts

A sample is what was measured on a node: the bytes free and used behind the
base path, and whether that path lies on the root volume.  A verdict says
whether the free bytes cover a reservation.

An empty sample covers nothing, not even a reservation of nothing.  A reservation
may be announced without an amount; then only an empty sample has a verdict.
-/

namespace Headroom

/-- What is to be left free on a node. -/
inductive Reservation
  | bytes (amount : Int)
  /-- A reservation without an amount. -/
  | unstated
deriving DecidableEq, Repr

/-- A reservation written out, if it has an amount that is not too long. -/
def Reservation.text? : Reservation → Option String
  | .bytes amount => Numeral.text? amount
  | .unstated => none

/-- The measured space of a node. -/
structure Sample where
  free : Nat
  used : Nat
  rootVolume : Bool
deriving DecidableEq, Repr

/-- The outcome of the check of one node. -/
structure Verdict where
  node : String
  free : Int
  hasSpace : Bool
deriving DecidableEq, Repr

namespace Sample

/-- Whether the free bytes cover a reservation. -/
def covers
    (sample : Sample)
    (reserved : Int) : Bool :=
  sample.free != 0 && reserved ≤ (sample.free : Int)

theorem covers_iff
    (sample : Sample)
    (reserved : Int) :
    sample.covers reserved = true ↔ sample.free ≠ 0 ∧ reserved ≤ (sample.free : Int) := by
  simp [covers]

/-- Whether the free bytes cover a reservation, if that can be told. -/
def covers?
    (sample : Sample) :
    Reservation → Option Bool
  | .bytes amount => some (sample.covers amount)
  | .unstated => if sample.free = 0 then some false else none

@[simp] theorem covers?_bytes (sample : Sample) (amount : Int) :
    sample.covers? (.bytes amount) = some (sample.covers amount) := rfl

open Schema in
/-- The sample that a record describes. -/
def ofFields (fields : Fields) : Checked Sample :=
  let free := fields.optional "free" 0 Datum.asNatural
  let used := fields.optional "used" 0 Datum.asNatural
  let rootVolume := fields.optional "root_volume" false Datum.asTruth
  ((Checked.apply (.ok Sample.mk) free).apply used).apply rootVolume

end Sample

namespace Verdict

open Schema in
/-- The verdict that a record describes. -/
def ofFields (fields : Fields) : Checked Verdict :=
  let node := fields.required "node" Datum.asString
  let free := fields.required "free" Datum.asInteger
  let hasSpace := fields.required "has_space" Datum.asTruth
  ((Checked.apply (.ok Verdict.mk) node).apply free).apply hasSpace

end Verdict
end Headroom
