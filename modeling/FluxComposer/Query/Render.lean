import FluxComposer.Query.Model
/-
The text of a query. Each part is one line, a filter without values has
none, and a pipeline that has a line ends by yielding its result. A raw
text is its own text.
-/
namespace FluxComposer

/-- What stands before every call but the first. -/
def pipeIndent : String := "    |> "

/-- The last line of every pipeline. -/
def yieldLine : String := pipeIndent ++ "yield(name: \"result\")"

/-- The line that reads a bucket. -/
def Bucket.line (b : Bucket) : String :=
  "from(bucket: \"" ++ b.name ++ "\")"

/-- The line that bounds the time. -/
def DateRange.line (r : DateRange) : String :=
  match r.stop with
  | some stop =>
    pipeIndent ++ "range(start: " ++ r.start ++ ", stop: " ++ stop ++ ")"
  | none => pipeIndent ++ "range(start: " ++ r.start ++ ")"

/-- One comparison of a filter. -/
def Column.clause (column : Column) (value : String) : String :=
  "r." ++ column.name ++ " == \"" ++ value ++ "\""

/-- The line of a filter. A filter without values has none. -/
def Filter.line? (f : Filter) : Option String :=
  match f.operand.values with
  | [] => none
  | values =>
    let clauses := values.map f.column.clause
    some (pipeIndent ++ "filter(fn: (r) => "
      ++ " or ".intercalate clauses ++ ")")

/-- The line of a part. -/
def Part.line? : Part → Option String
  | .bucket b => some b.line
  | .dateRange r => some r.line
  | .filter f => f.line?

namespace Query

/-- The lines of the pipeline that the parts describe. -/
def lines (q : Query) : List String :=
  match q.parts.filterMap Part.line? with
  | [] => []
  | lines => lines ++ [yieldLine]

/-- The text of a query. -/
def text (q : Query) : String :=
  q.rawText.getD ("\n".intercalate q.lines)

end Query
end FluxComposer
