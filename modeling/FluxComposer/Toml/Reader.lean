import FluxComposer.Toml.Scalar
/-
Reading TOML documents. A document is a sequence of lines: blank ones,
comments, keys with values, and headers, which begin a new section.
Arrays may run over several lines, tables between braces may not. Values
nest less than eighty deep.
-/
namespace FluxComposer.Toml

/-- How deep arrays and tables between braces may nest, and how many
keys may be joined by points. -/
def nestingLimit : Nat := 79

-- ============================================================== lines

/-- The text behind the end of a line, or behind the end of the text. -/
def lineEnd? : List Char → Option (List Char)
  | [] => some []
  | '\n' :: s => some s
  | '\r' :: '\n' :: s => some s
  | _ => none

/-- A comment without its number sign; the text behind its line. -/
def comment? (s : List Char) : Option (List Char) :=
  lineEnd? (s.dropWhile isTextChar)

/-- What may follow a header or a value on its line; the text behind the
line. -/
def lineRest? (s : List Char) : Option (List Char) :=
  match skipBlanks s with
  | '#' :: s => comment? s
  | s => lineEnd? s

/-- A text without the blanks, line ends and comments at its head. Each
costs one unit of fuel. -/
def skipLines : (fuel : Nat) → List Char → Option (List Char)
  | 0, s => some s
  | fuel + 1, s =>
    match skipBlanks s with
    | '#' :: s => do skipLines fuel (← comment? s)
    | '\n' :: s => skipLines fuel s
    | '\r' :: '\n' :: s => skipLines fuel s
    | s => some s

-- ============================================================= values

/-- A list of keys with values as the entries of a table between
braces. -/
def braceTable? (keys : List KeyValue) : Option Toml :=
  (addKeys keys .braces []).map (.table .braces)

mutual

/-- One value, with room for so many nested ones. -/
def value? : (fuel room : Nat) → List Char → Option (Toml × List Char)
  | 0, _, _ => none
  | fuel + 1, room, s =>
    match s with
    | '[' :: s =>
      match room with
      | 0 => none
      | room + 1 => do
        let (items, s) ← items? fuel room s
        return (.array items, s)
    | '{' :: s =>
      match room with
      | 0 => none
      | room + 1 => do
        match skipBlanks s with
        | '}' :: s => return (.table .braces [], s)
        | s =>
          let (keys, s) ← braceKeys? fuel room s
          return (← braceTable? keys, s)
    | s => scalar? s

/-- The items of an array up to its closing bracket. The last one may be
followed by a comma. -/
def items? : (fuel room : Nat) → List Char →
    Option (List Toml × List Char)
  | 0, _, _ => none
  | fuel + 1, room, s => do
    match ← skipLines s.length s with
    | ']' :: s => return ([], s)
    | s =>
      let (item, s) ← value? fuel room s
      match ← skipLines s.length s with
      | ']' :: s => return ([item], s)
      | ',' :: s =>
        let (items, s) ← items? fuel room s
        return (item :: items, s)
      | _ => none

/-- A key with its value. -/
def keyValue? : (fuel room : Nat) → List Char →
    Option (KeyValue × List Char)
  | 0, _, _ => none
  | fuel + 1, room, s => do
    let ((path, key), s) ← dottedKey? nestingLimit s
    match s with
    | '=' :: s =>
      let (value, s) ← value? fuel room (skipBlanks s)
      return (⟨path, key, value⟩, s)
    | _ => none

/-- The keys between braces, of which at least one has to come. -/
def braceKeys? : (fuel room : Nat) → List Char →
    Option (List KeyValue × List Char)
  | 0, _, _ => none
  | fuel + 1, room, s => do
    let (kv, s) ← keyValue? fuel room s
    match skipBlanks s with
    | '}' :: s => return ([kv], s)
    | ',' :: s =>
      let (kvs, s) ← braceKeys? fuel room s
      return (kv :: kvs, s)
    | _ => none

end

-- ========================================================== documents

/-- A header without its first bracket; the text behind its line. -/
def header? (s : List Char) : Option (Header × List Char) := do
  match s with
  | '[' :: s =>
    let ((path, key), s) ← dottedKey? nestingLimit s
    let s ← Text.after "]]".toList s
    return (.oneOfTables path key, ← lineRest? s)
  | s =>
    let ((path, key), s) ← dottedKey? nestingLimit s
    let s ← Text.after "]".toList s
    return (.table path key, ← lineRest? s)

/-- The keys of a section, and the headers and keys of the sections
behind it. -/
abbrev Sections := List KeyValue × List (Header × List KeyValue)

/-- The sections of a document. Each line costs one unit of fuel. -/
def sections? : (fuel : Nat) → List Char → Option Sections
  | 0, _ => none
  | fuel + 1, s =>
    match skipBlanks s with
    | [] => some ([], [])
    | '#' :: s => do sections? fuel (← comment? s)
    | '\n' :: s => sections? fuel s
    | '\r' :: '\n' :: s => sections? fuel s
    | '[' :: s => do
      let (header, s) ← header? s
      let (keys, more) ← sections? fuel s
      return ([], (header, keys) :: more)
    | s => do
      let (kv, s) ← keyValue? (s.length + 1) nestingLimit s
      let s ← lineRest? s
      let (keys, more) ← sections? fuel s
      return (kv :: keys, more)

/-- A text without the byte order mark that it may begin with. -/
def withoutMark : List Char → List Char
  | '\ufeff' :: s => s
  | s => s

/-- The document that a text is. -/
def parse? (text : String) : Option Entries := do
  let s := withoutMark text.toList
  let (keys, sections) ← sections? (s.length + 1) s
  let root ← addKeys keys .header []
  sections.foldlM (fun doc (header, keys) => addSection doc header keys) root

end FluxComposer.Toml
