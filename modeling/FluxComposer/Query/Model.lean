/-
The query being composed. A query is an ordered list of parts, each of
which stands for one call of the pipeline, or it is raw: a text that has
no such list and is kept as it was written.
-/
namespace FluxComposer

/-- A bucket of the database. A bucket read from a text has its name as
its id. -/
structure Bucket where
  id : String
  name : String
  deriving DecidableEq, Repr

/-- A time range. Both ends are literals of the query language that are
never interpreted here. -/
structure DateRange where
  start : String
  stop : Option String := none
  deriving DecidableEq, Repr

/-- The record columns that a filter can compare. -/
inductive Column where
  | measurement
  | field
  deriving DecidableEq, Repr

/-- What a filter compares its column with: one value, or several of
which any may match. One value and a list of one value are different
operands with the same meaning. -/
inductive Operand where
  | single (value : String)
  | anyOf (values : List String)
  deriving DecidableEq, Repr

/-- Keeps the records whose column has a value of the operand. -/
structure Filter where
  column : Column
  operand : Operand
  deriving DecidableEq, Repr

/-- One call of the pipeline. -/
inductive Part where
  | bucket (bucket : Bucket)
  | dateRange (range : DateRange)
  | filter (filter : Filter)
  deriving DecidableEq, Repr

/-- The query being composed. Where a raw text is present it is what the
query means, whatever the parts say. -/
structure Query where
  parts : List Part := []
  rawText : Option String := none
  deriving DecidableEq, Repr

-- ======================================================= constructors

/-- The bucket whose id is its name. -/
def Bucket.named (name : String) : Bucket := ⟨name, name⟩

/-- The name of a column in the records of the database. -/
def Column.name : Column → String
  | .measurement => "_measurement"
  | .field => "_field"

/-- The column with a given record name. -/
def Column.ofName? (name : String) : Option Column :=
  if name = "_measurement" then some .measurement
  else if name = "_field" then some .field
  else none

/-- The values of an operand, in order. -/
def Operand.values : Operand → List String
  | .single value => [value]
  | .anyOf values => values

/-- The first value of an operand. -/
def Operand.first? (o : Operand) : Option String := o.values.head?

/-- The operand for a list of values read one after another. -/
def Operand.ofValues : List String → Operand
  | [value] => .single value
  | values => .anyOf values

/-- A part that filters one column. -/
def Part.comparing (column : Column) (operand : Operand) : Part :=
  .filter ⟨column, operand⟩

-- ============================================================ queries

namespace Part

def isBucket : Part → Bool
  | .bucket _ => true
  | _ => false

def isDateRange : Part → Bool
  | .dateRange _ => true
  | _ => false

/-- Whether a part filters the given column. -/
def isFilterOn (column : Column) : Part → Bool
  | .filter f => f.column = column
  | _ => false

def bucket? : Part → Option Bucket
  | .bucket b => some b
  | _ => none

def dateRange? : Part → Option DateRange
  | .dateRange r => some r
  | _ => none

/-- The filter of a part that filters the given column. -/
def filterOn? (column : Column) : Part → Option Filter
  | .filter f => if f.column = column then some f else none
  | _ => none

end Part

namespace Query

/-- The query without parts. -/
def empty : Query := {}

/-- The structured query with the given parts. -/
def ofParts (parts : List Part) : Query := { parts }

/-- The raw query with the given text. -/
def raw (text : String) : Query := { rawText := some text }

/-- Whether the text of the query is kept as it was written. -/
def isRaw (q : Query) : Bool := q.rawText.isSome

/-- Whether the query has neither parts nor a raw text. -/
def isEmpty (q : Query) : Bool := q.parts.isEmpty && q.rawText.isNone

/-- The first bucket of the query. -/
def bucket? (q : Query) : Option Bucket := q.parts.findSome? Part.bucket?

/-- The first date range of the query. -/
def dateRange? (q : Query) : Option DateRange :=
  q.parts.findSome? Part.dateRange?

/-- The first filter of the query on a column. -/
def filterOn? (q : Query) (column : Column) : Option Filter :=
  q.parts.findSome? (Part.filterOn? column)

/-- The position of the first part that satisfies a test. -/
def position? (q : Query) (test : Part → Bool) : Option Nat :=
  q.parts.findIdx? test

end Query
end FluxComposer
