import FluxComposer.Query.Model
import FluxComposer.Json.Decode
/-
Queries as JSON. A part is an object tagged with its type; the stop of a
range and the raw text of a query are left out where there is none.

    {"parts": [
       {"type": "bucket", "id": "0a1b", "name": "metrics"},
       {"type": "dateRange", "start": "-1h"},
       {"type": "filter", "kind": "field", "value": ["temp", "load"]}]}

A tagged part is read in two steps. The tag may stand anywhere among the
members, so first the whole part has to be sound JSON, then its shape is
looked at. What is held between the two steps no longer tells an empty
object from null, so there a column may be given either; a filter that is
no part is read in one step and takes null alone.
-/
namespace FluxComposer

open Json (Reading Fault Decoder)
open Json.Decode (field record optional list)

-- ============================================================ writing

def Bucket.toJson (b : Bucket) : Json :=
  .object [("id", .string b.id), ("name", .string b.name)]

/-- The members of a date range. -/
def DateRange.members (r : DateRange) : List (String × Json) :=
  ("start", .string r.start) ::
    match r.stop with
    | some stop => [("stop", .string stop)]
    | none => []

def DateRange.toJson (r : DateRange) : Json := .object r.members

/-- The word for a column in JSON. -/
def Column.label : Column → String
  | .measurement => "measurement"
  | .field => "field"

def Operand.toJson : Operand → Json
  | .single value => .string value
  | .anyOf values => .strings values

def Part.toJson : Part → Json
  | .bucket b =>
    .object [("type", .string "bucket"), ("id", .string b.id),
      ("name", .string b.name)]
  | .dateRange r => .object (("type", .string "dateRange") :: r.members)
  | .filter f =>
    .object [("type", .string "filter"),
      ("kind", .string f.column.label), ("value", f.operand.toJson)]

def Query.toJson (q : Query) : Json :=
  .object (("parts", .array (q.parts.map Part.toJson)) ::
    match q.rawText with
    | some text => [("rawText", .string text)]
    | none => [])

-- ============================================================ reading

/-- The column with a given word in JSON. -/
def Column.ofLabel? (label : String) : Option Column :=
  if label = "measurement" then some .measurement
  else if label = "field" then some .field
  else none

/-- A bucket, as an object or as an array of id and name. -/
def Bucket.decode : Decoder Bucket :=
  record [
    field "id" Json.Decode.string fun id b => { b with id },
    field "name" Json.Decode.string fun name b => { b with name }]
    ⟨"", ""⟩

def DateRange.decode : Decoder DateRange :=
  record [
    field "start" Json.Decode.string fun start r => { r with start },
    field "stop" (optional Json.Decode.string)
      (fun stop r => { r with stop }) true]
    ⟨"", none⟩

/-- How far the reading of a filter has come. -/
inductive Stage where
  /-- The filter is read as it stands in its text. -/
  | direct
  /-- The filter is the content of a part and was held until the tag. -/
  | held
  deriving DecidableEq, Repr

/-- Whether a reading says that there is no value. -/
def Stage.isNothing : Stage → Reading → Bool
  | _, .null => true
  | .held, .object [] => true
  | _, _ => false

/-- A column: its word, or an object whose only key is the word and that
gives it no value. -/
def Column.decode (stage : Stage) : Decoder Column
  | .string (some label) => named label
  | .object [(some label, value)] =>
    if stage.isNothing value then named label else .error .mismatch
  | r => .error (Json.Decode.fault r)
where
  named (label : String) : Except Fault Column :=
    match ofLabel? label with
    | some column => .ok column
    | none => .error .mismatch

/-- An operand: a string, or a list of strings. -/
def Operand.decode : Decoder Operand
  | .string (some value) => .ok (.single value)
  | .array items =>
    Operand.anyOf <$> list Json.Decode.string (.array items)
  | r => .error (Json.Decode.fault r)

def Filter.decode (stage : Stage) : Decoder Filter :=
  record [
    field "kind" (Column.decode stage) fun column f => { f with column },
    field "value" Operand.decode fun operand f => { f with operand }]
    ⟨.measurement, .anyOf []⟩

namespace Part

/-- The types that a part can be tagged with. -/
inductive Tag where
  | bucket
  | dateRange
  | filter
  deriving DecidableEq, Repr

/-- The tag that a reading names. -/
def Tag.decode : Decoder Tag := fun r => do
  match ← Json.Decode.string r with
  | "bucket" => return .bucket
  | "dateRange" => return .dateRange
  | "filter" => return .filter
  | _ => .error .mismatch

/-- The part with a given tag and content. The content is sound JSON, so
whatever is wrong with it is its shape. -/
def ofContent (tag : Tag) (content : Reading) : Except Fault Part :=
  let part :=
    match tag with
    | .bucket => Part.bucket <$> Bucket.decode content
    | .dateRange => Part.dateRange <$> DateRange.decode content
    | .filter => Part.filter <$> Filter.decode .held content
  part.mapError fun _ => .mismatch

/-- Reads one member of a tagged object, given the tag and the content
met so far. -/
def taggedMember (room : Nat)
    (state : Option Tag × List (Option String × Reading))
    (m : Option String × Reading) :
    Except Fault (Option Tag × List (Option String × Reading)) :=
  match m.1 with
  | none => .error .malformed
  | some key =>
    if key = "type" then
      if state.1.isSome then .error .mismatch
      else do return (some (← Tag.decode m.2), state.2)
    else if (m.2.value? room).isSome then .ok (state.1, state.2 ++ [m])
    else .error .malformed

/-- A part, as a tagged object or as an array that begins with the tag.
`room` is how many containers its members may nest. -/
def decode (room : Nat) : Decoder Part
  | .object members => do
    match ← members.foldlM (taggedMember room) (none, []) with
    | (some tag, content) => ofContent tag (.object content)
    | (none, _) => .error .mismatch
  | .array [] => .error .mismatch
  | .array (first :: items) => do
    let tag ← Tag.decode first
    if (Reading.values? room items).isSome then
      ofContent tag (.array items)
    else .error .malformed
  | r => .error (Json.Decode.fault r)

end Part

/-- A query that stands `depth` containers deep in its text. -/
def Query.decode (depth : Nat) : Decoder Query :=
  record [
    field "parts" (list (Part.decode (Json.depthLimit - (depth + 3))))
      (fun parts q => { q with parts }) true,
    field "rawText" (optional Json.Decode.string)
      (fun rawText q => { q with rawText }) true]
    {}

end FluxComposer
