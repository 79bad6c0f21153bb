import FluxComposer.Influx.Table
import FluxComposer.Query.Render
/-
Listing what a bucket holds. Measurements and fields are found by
ordinary queries, made of the same lines as any other query, whose result
names them one per row. Such a query reads the column `_value`; where a
result has none, the listed column itself.
-/
namespace FluxComposer.Schema

/-- The query that lists the values of a column among the records that
the parts select. -/
def listingQuery (parts : List Part) (column : Column) : String :=
  "\n".intercalate (parts.filterMap Part.line? ++ [
    pipeIndent ++ "keep(columns: [\"" ++ column.name ++ "\"])",
    pipeIndent ++ "distinct(column: \"" ++ column.name ++ "\")"])

/-- The parts that read a bucket from a point in time on. -/
def bucketParts (bucket lookback : String) : List Part :=
  [.bucket (.named bucket), .dateRange { start := lookback }]

/-- The query that lists the measurements of a bucket. -/
def measurementsQuery (bucket lookback : String) : String :=
  listingQuery (bucketParts bucket lookback) .measurement

/-- The query that lists the fields of a measurement. -/
def fieldsQuery (bucket measurement lookback : String) : String :=
  listingQuery (bucketParts bucket lookback
    ++ [.comparing .measurement (.single measurement)]) .field

/-- The column of a table that names what is listed. -/
def sourceLabel (t : Table) (label : String) : String :=
  if (t.columnIndex? "_value").isSome then "_value" else label

/-- One more name, unless it is listed already. -/
def addName (names : List String) (name : String) : List String :=
  if names.contains name then names else names ++ [name]

/-- The names that tables list, each once, in the order in which they
first come. -/
def distinctValues (tables : List Table) (label : String) : List String :=
  (tables.flatMap fun t => t.columnValues (sourceLabel t label)).foldl
    addName []

end FluxComposer.Schema
