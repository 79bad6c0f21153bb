import FluxComposer.Builder.Basic
import FluxComposer.Query.Encoding
/-
What a builder shows: its query in both forms, its listings, and a title
for each of the controls that pick from them. A title names the selection
where there is one and says otherwise what has to be done first.
-/
namespace FluxComposer.Builder

/-- The titles of the four controls. -/
structure Titles where
  buckets : String
  measurements : String
  fields : String
  dateRange : String
  deriving DecidableEq, Repr

def bucketsTitle (b : Builder) : String :=
  if b.buckets.isEmpty then "No buckets found"
  else
    match b.bucket? with
    | some bucket => bucket.name
    | none => "Select a bucket"

def measurementsTitle (b : Builder) : String :=
  if b.bucket?.isNone then "Select a bucket first"
  else if b.measurements.isEmpty then "No measurements found"
  else b.measurement?.getD "Select a measurement"

def fieldsTitle (b : Builder) : String :=
  if b.bucket?.isNone then "Select a bucket first"
  else if b.measurement?.isNone then "Select a measurement first"
  else if b.fields.isEmpty then "No fields found"
  else
    match b.selectedFields with
    | [] => "Select fields"
    | [name] => name
    | names => toString names.length ++ " fields selected"

def dateRangeTitle (b : Builder) : String :=
  match b.dateRange? with
  | none => "Select date range"
  | some ⟨start, none⟩ => start
  | some ⟨start, some stop⟩ => start ++ " to " ++ stop

def titles (b : Builder) : Titles where
  buckets := b.bucketsTitle
  measurements := b.measurementsTitle
  fields := b.fieldsTitle
  dateRange := b.dateRangeTitle

-- =============================================================== view

def Titles.toJson (t : Titles) : Json :=
  .object [("buckets", .string t.buckets),
    ("measurements", .string t.measurements),
    ("fields", .string t.fields), ("dateRange", .string t.dateRange)]

/-- Everything that a builder shows. -/
def view (b : Builder) : Json :=
  .object [("model", b.query.toJson), ("text", .string b.text),
    ("rawMode", .bool b.query.isRaw),
    ("buckets", .array (b.buckets.map Bucket.toJson)),
    ("measurements", .strings b.measurements),
    ("fields", .strings b.fields), ("titles", b.titles.toJson),
    ("revision", .nat b.revision.toNat)]

end FluxComposer.Builder
