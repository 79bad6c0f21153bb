/-
TOML documents as trees. A table remembers how it came about, because
that decides what may still be added to it: a table is given its content
once, by its header, by dotted keys or between braces, and only a table
that exists merely because a longer header named it can still get a
header of its own. Floats and dates are kept without their value, which
nothing asks for.
-/
namespace FluxComposer

/-- How a table came about. -/
inductive Toml.Origin where
  /-- By a header of its own. -/
  | header
  /-- By the header of a table within it. -/
  | implied
  /-- By a dotted key. -/
  | dotted
  /-- As a value between braces. -/
  | braces
  deriving DecidableEq, Repr

/-- A node of a TOML document. -/
inductive Toml where
  | string (value : String)
  | integer (value : Int)
  | float
  | boolean (value : Bool)
  | datetime
  | array (items : List Toml)
  /-- The tables of one repeated header. -/
  | tables (items : List Toml)
  | table (origin : Toml.Origin) (entries : List (String × Toml))
  deriving Repr, Inhabited

namespace Toml

/-- The entries of a table. -/
abbrev Entries := List (String × Toml)

/-- Puts `change` of what a key holds in its place; a key that holds
nothing yet is added. -/
def update (key : String) (change : Option Toml → Option Toml) :
    Entries → Option Entries
  | [] => do
    let v ← change none
    return [(key, v)]
  | (k, v) :: rest =>
    if k = key then do
      let v ← change (some v)
      return (k, v) :: rest
    else do
      let rest ← update key change rest
      return (k, v) :: rest

/-- Changes the last of several tables. -/
def changeLast (change : Toml → Option Toml) :
    List Toml → Option (List Toml)
  | [] => none
  | [t] => do
    let t ← change t
    return [t]
  | t :: ts => do
    let ts ← changeLast change ts
    return t :: ts

/-- Whether a path that creates tables of one origin may lead through a
table of another. A table between braces is closed, and one with a header
is closed to dotted keys. -/
def Origin.admits (created : Origin) : (found : Origin) → Bool
  | .braces => false
  | .header => created = .implied
  | .implied | .dotted => true

/-- Walks along a path of tables and changes the entries of the last one,
whose origin the change is told. Missing tables are created with the
given origin, and of the tables of a repeated header the last one
counts. -/
def changeAt (created : Origin)
    (change : Origin → Entries → Option Entries) :
    (path : List String) → Origin → Entries → Option Entries
  | [], here, entries => change here entries
  | key :: path, _, entries =>
    let enter : Toml → Option Toml
      | .table found es =>
        if created.admits found then
          (changeAt created change path found es).map (.table found)
        else none
      | _ => none
    let enterLast : Toml → Option Toml
      | .table found es =>
        (changeAt created change path found es).map (.table found)
      | _ => none
    update key (fun
      | none =>
        (changeAt created change path created []).map (.table created)
      | some (.tables ts) => (changeLast enterLast ts).map .tables
      | some t => enter t) entries

/-- Adds a key with a value behind a dotted path. A table that dotted
keys created gets its keys by dotted keys only, and no other table
does. -/
def addKey (path : List String) (key : String) (value : Toml)
    (here : Origin) (entries : Entries) : Option Entries :=
  changeAt .dotted (fun found es =>
    if (found = .dotted) = path.isEmpty then none
    else update key (fun
      | none => some value
      | some _ => none) es) path here entries

/-- A key with its dotted path and its value. -/
structure KeyValue where
  path : List String
  key : String
  value : Toml

/-- Adds keys one after another to a table. -/
def addKeys (keys : List KeyValue) (here : Origin) (entries : Entries) :
    Option Entries :=
  keys.foldlM (fun es kv => addKey kv.path kv.key kv.value here es) entries

/-- What introduces the keys of a section. -/
inductive Header where
  | table (path : List String) (key : String)
  | oneOfTables (path : List String) (key : String)

/-- Adds a section to a document. A table header gives a table its
content, which only an implied table may lack; a repeated header adds one
more table. -/
def addSection (document : Entries) (header : Header)
    (keys : List KeyValue) : Option Entries :=
  match header with
  | .table path key =>
    changeAt .implied (fun _ es => update key (fun
      | none => (addKeys keys .header []).map (.table .header)
      | some (.table .implied old) =>
        (addKeys keys .header old).map (.table .header)
      | some _ => none) es) path .header document
  | .oneOfTables path key =>
    changeAt .implied (fun _ es => update key (fun
      | none => do
        let t ← addKeys keys .header []
        return .tables [.table .header t]
      | some (.tables ts) => do
        let t ← addKeys keys .header []
        return .tables (ts ++ [.table .header t])
      | some _ => none) es) path .header document

end Toml
end FluxComposer
