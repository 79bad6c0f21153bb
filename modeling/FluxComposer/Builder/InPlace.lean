import FluxComposer.Builder.Edit
/-
The operations on a builder that is kept, step by step. An operation looks
at the builder, may give up, and assigns fields one after another. What
was assigned before it gives up stays assigned, so that a refusal leaves
the builder as it was is a matter of the order of the steps.
-/
namespace FluxComposer.Builder

/-- Steps on a builder that is kept, which may give up. -/
abbrev Steps := OptionT (StateM Builder)

namespace Steps

/-- Puts another query in the place of the query. -/
def replaceQuery (query : Query) : Steps Unit := do
  modify fun b => { b with query }
  modify fun b => { b with revision := b.revision + 1 }

def clearMeasurements : Steps Unit :=
  modify fun b => { b with measurements := [] }

def clearFields : Steps Unit := modify fun b => { b with fields := [] }

def selectBucket (position : Nat) : Steps Outcome := do
  let some bucket := (← get).buckets[position]? | failure
  replaceQuery (.ofParts [.bucket bucket, .dateRange defaultRange])
  clearMeasurements
  clearFields
  return .selected bucket

def selectMeasurement (position : Nat) : Steps Outcome := do
  let some measurement := (← get).measurements[position]? | failure
  let some bucket := (← get).bucket? | failure
  let kept := (← get).query.keep fun part =>
    !part.isFilterOn .measurement && !part.isFilterOn .field
  replaceQuery (kept.append (.comparing .measurement (.single measurement)))
  clearFields
  return .lookup ⟨bucket.name, measurement⟩

def selectFields (positions : List Nat) : Steps Outcome := do
  let kept := withoutFieldFilters (← get).query
  if positions.isEmpty then
    replaceQuery kept
    return .done
  let fields := (← get).fields
  let names := positions.filterMap (fields[·]?)
  if names.isEmpty then failure
  replaceQuery (kept.append (.comparing .field (.anyOf names)))
  return .done

def selectDateRange (start : String) (stop : Option String) :
    Steps Outcome := do
  let range := Part.dateRange ⟨start, stop⟩
  let query := (← get).query
  replaceQuery <| match query.position? Part.isDateRange with
    | some index => query.replaceAt index range
    | none => query.append range
  return .done

def removePart (index : Nat) : Steps Outcome := do
  let some part := (← get).query.parts[index]? | failure
  replaceQuery ((← get).query.removeAt index)
  match part with
  | .bucket _ =>
    clearMeasurements
    clearFields
  | .filter ⟨.measurement, _⟩ => clearFields
  | _ => pure ()
  return .removed part

def reset : Steps Outcome := do
  replaceQuery Query.empty
  clearMeasurements
  clearFields
  return .done

/-- Gives up where a listing was fetched at another revision. -/
def requireRevision (revision : UInt64) : Steps Unit := do
  if revision ≠ (← get).revision then failure

/-- The steps of an operation. -/
def ofEdit : Edit → Steps Outcome
  | .setBuckets buckets => do
    modify fun b => { b with buckets }
    return .done
  | .selectBucket position => selectBucket position
  | .selectMeasurement position => selectMeasurement position
  | .selectFields positions => selectFields positions
  | .selectDateRange start stop => selectDateRange start stop
  | .updateText text => do
    replaceQuery (Query.parse text)
    return .done
  | .removePart index => removePart index
  | .reset => reset
  | .applyMeasurements revision names => do
    requireRevision revision
    modify fun b => { b with measurements := names }
    return .done
  | .applyFields revision names => do
    requireRevision revision
    modify fun b => { b with fields := names }
    return .done

end Steps

/-- Carries an edit out on a builder that is kept: what it answers, and
what the builder is then, also where the edit has given up. -/
def perform (b : Builder) (e : Edit) : Outcome × Builder :=
  match (Steps.ofEdit e).run.run b with
  | (some outcome, b') => (outcome, b')
  | (none, b') => (.refused, b')

end FluxComposer.Builder
