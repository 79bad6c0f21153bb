import FluxComposer.Query.Model
/-
A query from choices that are made all at once. The parts stand in the
order of the pipeline: bucket, range, measurement, fields; what is not
chosen has no part.
-/
namespace FluxComposer

/-- What a query is to read. -/
structure Choices where
  bucket : String
  start : String := "-1h"
  stop : Option String := none
  measurement : Option String := none
  fields : List String := []
  deriving DecidableEq, Repr

namespace Choices

/-- The filter on the chosen fields. -/
def fieldParts (c : Choices) : List Part :=
  if c.fields.isEmpty then []
  else [.comparing .field (.ofValues c.fields)]

/-- The filter on the chosen measurement. -/
def measurementParts (c : Choices) : List Part :=
  c.measurement.toList.map fun m => .comparing .measurement (.single m)

/-- The query that reads what is chosen. -/
def query (c : Choices) : Query :=
  .ofParts (.bucket (.named c.bucket) :: .dateRange ⟨c.start, c.stop⟩ ::
    (c.measurementParts ++ c.fieldParts))

end Choices
end FluxComposer
