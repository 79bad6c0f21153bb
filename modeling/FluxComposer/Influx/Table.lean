import FluxComposer.Csv.Records
import FluxComposer.Json.Value
/-
Query results as annotated tables. A result is a sequence of blocks. Each
begins with annotation records, whose first field starts with a number
sign, and a header record, which has a field `result` and a field
`table`; the records behind it are its data. The data of a block belong
to the tables that their `table` field names, and a table is known by its
block and that name. Records without any content are passed over, and so
are data before the first header.
-/
namespace FluxComposer

/-- One table of a query result. -/
structure Table where
  columns : List String
  rows : List (List String)
  deriving DecidableEq, Repr

namespace Table

/-- The position of the first column with a label. -/
def columnIndex? (t : Table) (label : String) : Option Nat :=
  t.columns.findIdx? (· = label)

/-- The cells of a column, row by row, without the empty ones. -/
def columnValues (t : Table) (label : String) : List String :=
  match t.columnIndex? label with
  | none => []
  | some i => (t.rows.filterMap (·[i]?)).filter (· ≠ "")

def toJson (t : Table) : Json :=
  .object [("columns", .strings t.columns),
    ("rows", .array (t.rows.map .strings))]

-- =========================================================== decoding

/-- What a record is for. -/
inductive RecordKind where
  | annotating
  | blank
  | header
  | data
  deriving DecidableEq, Repr

/-- What a record is for, by its fields. -/
def RecordKind.of (r : Csv.Record) : RecordKind :=
  if (r.head?.getD "").toList.head? = some '#' then .annotating
  else if r.all (· = "") then .blank
  else if r.contains "result" && r.contains "table" then .header
  else .data

/-- A header and the number of its block. -/
structure Block where
  number : Nat
  labels : List String
  deriving DecidableEq, Repr

namespace Block

/-- The name of the table that a record belongs to. -/
def tableName (b : Block) (r : Csv.Record) : String :=
  match b.labels.findIdx? (· = "table") with
  | some i => r[i]?.getD ""
  | none => ""

/-- Annotations stand in a leading column without a label. It is no
column of the table and is cut from labels and records alike. -/
def cut (b : Block) (fields : List String) : List String :=
  if b.labels.head? = some "" then fields.drop 1 else fields

end Block

/-- The tables of a result, each under its block and name, in the order
in which their first records came. -/
abbrev Keyed := List ((Nat × String) × Table)

/-- One more record for a table, which is added where it is missing. -/
def Keyed.add (ts : Keyed) (key : Nat × String) (columns row : List String) :
    Keyed :=
  match ts with
  | [] => [(key, ⟨columns, [row]⟩)]
  | (k, t) :: ts =>
    if k = key then (k, { t with rows := t.rows ++ [row] }) :: ts
    else (k, t) :: Keyed.add ts key columns row

/-- The block that is being read and the tables so far. -/
structure Progress where
  block : Option Block := none
  tables : Keyed := []

/-- Takes one record in. -/
def Progress.step (p : Progress) (r : Csv.Record) : Progress :=
  match RecordKind.of r with
  | .annotating | .blank => p
  | .header =>
    let number := match p.block with
      | some b => b.number + 1
      | none => 0
    { p with block := some ⟨number, r⟩ }
  | .data =>
    match p.block with
    | none => p
    | some b =>
      let key := (b.number, b.tableName r)
      { p with tables := p.tables.add key (b.cut b.labels) (b.cut r) }

/-- The tables that records describe. -/
def ofRecords (rs : List Csv.Record) : List Table :=
  (rs.foldl Progress.step {}).tables.map (·.2)

/-- The tables of a result text. -/
def decode (body : String) : List Table := ofRecords (Csv.records body)

end Table
end FluxComposer
