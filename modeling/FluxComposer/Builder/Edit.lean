import FluxComposer.Builder.Basic
/-
The operations on a builder as data, so that what happens to a builder
over time is a list of edits. Each edit has an outcome, and a refused
edit leaves the builder as it is.
-/
namespace FluxComposer.Builder

/-- One operation on a builder. -/
inductive Edit where
  | setBuckets (buckets : List Bucket)
  | selectBucket (position : Nat)
  | selectMeasurement (position : Nat)
  | selectFields (positions : List Nat)
  | selectDateRange (start : String) (stop : Option String)
  | updateText (text : String)
  | removePart (index : Nat)
  | reset
  | applyMeasurements (revision : UInt64) (names : List String)
  | applyFields (revision : UInt64) (names : List String)
  deriving DecidableEq, Repr

/-- What an operation answers. -/
inductive Outcome where
  /-- The operation was carried out and has nothing else to say. -/
  | done
  /-- The operation was refused. -/
  | refused
  | selected (bucket : Bucket)
  | lookup (lookup : FieldLookup)
  | removed (part : Part)
  deriving DecidableEq, Repr

/-- The outcome and the builder after an operation that can be refused. -/
def orRefused {α : Type} (b : Builder) (outcome : α → Outcome) :
    Option (α × Builder) → Outcome × Builder
  | some (a, b') => (outcome a, b')
  | none => (.refused, b)

/-- The same for an operation that answers with the builder alone. -/
def doneOrRefused (b : Builder) : Option Builder → Outcome × Builder
  | some b' => (.done, b')
  | none => (.refused, b)

/-- Carries an edit out. -/
def apply (b : Builder) : Edit → Outcome × Builder
  | .setBuckets buckets => (.done, b.setBuckets buckets)
  | .selectBucket position =>
    b.orRefused .selected (b.selectBucket position)
  | .selectMeasurement position =>
    b.orRefused .lookup (b.selectMeasurement position)
  | .selectFields positions => b.doneOrRefused (b.selectFields positions)
  | .selectDateRange start stop => (.done, b.selectDateRange start stop)
  | .updateText text => (.done, b.updateText text)
  | .removePart index => b.orRefused .removed (b.removePart index)
  | .reset => (.done, b.reset)
  | .applyMeasurements revision names =>
    b.doneOrRefused (b.applyMeasurements revision names)
  | .applyFields revision names =>
    b.doneOrRefused (b.applyFields revision names)

/-- The builder after a list of edits. -/
def applyAll (b : Builder) (edits : List Edit) : Builder :=
  edits.foldl (fun b e => (b.apply e).2) b

end FluxComposer.Builder
