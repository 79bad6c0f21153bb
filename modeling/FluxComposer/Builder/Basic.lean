import FluxComposer.Query.Edit
import FluxComposer.Query.Parse
import FluxComposer.Query.Render
/-
Composing a query by selection. A builder holds the query together with
the listings from which buckets, measurements and fields are picked by
position, and a revision that counts the changes of the query.

Listings are fetched by others. One that was fetched for a selection is
applied with the revision that the selection led to, and is refused once
the query has changed again, so a late answer cannot overwrite the
listing of a newer selection.

An operation that can be refused answers with nothing when it is, so a
refusal has no builder to change.
-/
namespace FluxComposer

/-- A query being composed, and the listings it is composed from. -/
structure Builder where
  buckets : List Bucket := []
  measurements : List String := []
  fields : List String := []
  query : Query := {}
  revision : UInt64 := 0
  deriving DecidableEq, Repr

/-- The field listing that a selected measurement asks for. -/
structure FieldLookup where
  bucket : String
  measurement : String
  deriving DecidableEq, Repr

namespace Builder

/-- The range that a newly selected bucket is read over. -/
def defaultRange : DateRange := { start := "-1h" }

-- ========================================================== selection

/-- The bucket that the query reads. -/
def bucket? (b : Builder) : Option Bucket := b.query.bucket?

/-- The time range of the query. -/
def dateRange? (b : Builder) : Option DateRange := b.query.dateRange?

/-- The first measurement that the query keeps. -/
def measurement? (b : Builder) : Option String :=
  (b.query.filterOn? .measurement).bind (·.operand.first?)

/-- The fields that the query keeps. -/
def selectedFields (b : Builder) : List String :=
  match b.query.filterOn? .field with
  | some f => f.operand.values
  | none => []

/-- The text of the query. -/
def text (b : Builder) : String := b.query.text

-- ========================================================= operations

/-- The builder with another query, one revision later. -/
def withQuery (b : Builder) (query : Query) : Builder :=
  { b with query, revision := b.revision + 1 }

/-- The builder without the listings that depend on a bucket. -/
def forgetListings (b : Builder) : Builder :=
  { b with measurements := [], fields := [] }

/-- The builder without the listing that depends on a measurement. -/
def forgetFields (b : Builder) : Builder := { b with fields := [] }

/-- Offers other buckets. -/
def setBuckets (b : Builder) (buckets : List Bucket) : Builder :=
  { b with buckets }

/-- Starts over from the bucket listed at `position`, read over the
default range. Without one, nothing is selected. -/
def selectBucket (b : Builder) (position : Nat) :
    Option (Bucket × Builder) := do
  let bucket ← b.buckets[position]?
  let query := Query.ofParts [.bucket bucket, .dateRange defaultRange]
  return (bucket, (b.withQuery query).forgetListings)

/-- Puts the measurement listed at `position` in the place of all filters
on measurements and fields. Without one, or without a selected bucket,
nothing is selected. -/
def selectMeasurement (b : Builder) (position : Nat) :
    Option (FieldLookup × Builder) := do
  let measurement ← b.measurements[position]?
  let bucket ← b.bucket?
  let kept := b.query.keep fun part =>
    !part.isFilterOn .measurement && !part.isFilterOn .field
  let query := kept.append (.comparing .measurement (.single measurement))
  return (⟨bucket.name, measurement⟩, (b.withQuery query).forgetFields)

/-- The query without its field filters. -/
def withoutFieldFilters (q : Query) : Query :=
  q.keep fun part => !part.isFilterOn .field

/-- Puts the fields listed at the given positions in the place of all
field filters. Positions without a field are skipped; if none is left,
nothing is selected. No positions at all take the field filters out. -/
def selectFields (b : Builder) (positions : List Nat) : Option Builder :=
  let kept := withoutFieldFilters b.query
  match positions with
  | [] => some (b.withQuery kept)
  | positions =>
    match positions.filterMap (b.fields[·]?) with
    | [] => none
    | names => some (b.withQuery (kept.append
        (.comparing .field (.anyOf names))))

/-- Sets the time range: in the place of the first one, or behind all
parts. -/
def selectDateRange (b : Builder) (start : String)
    (stop : Option String) : Builder :=
  let range := Part.dateRange ⟨start, stop⟩
  match b.query.position? Part.isDateRange with
  | some index => b.withQuery (b.query.replaceAt index range)
  | none => b.withQuery (b.query.append range)

/-- Takes the query from a text. -/
def updateText (b : Builder) (text : String) : Builder :=
  b.withQuery (Query.parse text)

/-- The builder without the listings that depended on a removed part. -/
def forgetFor (b : Builder) : Part → Builder
  | .bucket _ => b.forgetListings
  | .filter ⟨.measurement, _⟩ => b.forgetFields
  | _ => b

/-- Takes the part at `index` out, with the listings that depended on
it. -/
def removePart (b : Builder) (index : Nat) : Option (Part × Builder) := do
  let part ← b.query.parts[index]?
  return (part, (b.withQuery (b.query.removeAt index)).forgetFor part)

/-- Drops the query and the listings that depend on it. -/
def reset (b : Builder) : Builder :=
  (b.withQuery Query.empty).forgetListings

/-- Takes over a measurement listing that was fetched at a revision. -/
def applyMeasurements (b : Builder) (revision : UInt64)
    (measurements : List String) : Option Builder :=
  if revision = b.revision then some { b with measurements } else none

/-- Takes over a field listing that was fetched at a revision. -/
def applyFields (b : Builder) (revision : UInt64)
    (fields : List String) : Option Builder :=
  if revision = b.revision then some { b with fields } else none

end Builder
end FluxComposer
