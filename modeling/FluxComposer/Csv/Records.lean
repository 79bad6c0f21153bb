/-
Splitting comma-separated text into records. Line ends are line feeds and
carriage returns, and lines without a field vanish. A quote opens a
quoted field only at the start of the field; inside, two quotes are one
and everything else is itself, line ends included. What follows the
closing quote belongs to the field as it stands. A quoted field that is
never closed runs to the end of the text. Records may differ in length.
-/
namespace FluxComposer.Csv

/-- A record: its fields in order. -/
abbrev Record := List String

/-- Where in a record the next character stands. -/
inductive Place where
  /-- Before a record. -/
  | recordStart
  /-- Before a field of a record that has begun. -/
  | fieldStart
  /-- In a field, outside quotes. -/
  | plain
  /-- In a field, inside quotes. -/
  | quoted
  /-- Behind a quote that closes the field or begins a double one. -/
  | afterQuote
  deriving DecidableEq, Repr

/-- What has been read: whole records, the fields of the current one and
the characters of the current field, each with the latest first. -/
structure Cursor where
  place : Place := .recordStart
  records : List Record := []
  fields : List String := []
  chars : List Char := []
  deriving Repr

namespace Cursor

/-- Ends the current field. -/
def endField (c : Cursor) (next : Place) : Cursor :=
  { c with
    place := next
    fields := String.ofList c.chars.reverse :: c.fields
    chars := [] }

/-- Ends the current record with its current field. -/
def endRecord (c : Cursor) : Cursor :=
  let c := c.endField .recordStart
  { c with records := c.fields.reverse :: c.records, fields := [] }

/-- One more character of the current field. -/
def push (c : Cursor) (place : Place) (x : Char) : Cursor :=
  { c with place, chars := x :: c.chars }

/-- A character outside quotes. -/
def plainStep (c : Cursor) (x : Char) : Cursor :=
  if x = ',' then c.endField .fieldStart
  else if x = '\n' ∨ x = '\r' then c.endRecord
  else c.push .plain x

/-- A character at the start of a field. -/
def fieldStep (c : Cursor) (x : Char) : Cursor :=
  if x = '"' then { c with place := .quoted } else c.plainStep x

/-- Reads one character. -/
def step (c : Cursor) (x : Char) : Cursor :=
  match c.place with
  | .recordStart => if x = '\n' ∨ x = '\r' then c else c.fieldStep x
  | .fieldStart => c.fieldStep x
  | .plain => c.plainStep x
  | .quoted =>
    if x = '"' then { c with place := .afterQuote } else c.push .quoted x
  | .afterQuote => if x = '"' then c.push .quoted x else c.plainStep x

/-- The records when the text ends here. -/
def finish (c : Cursor) : List Record :=
  match c.place with
  | .recordStart => c.records.reverse
  | _ => c.endRecord.records.reverse

end Cursor

/-- A text without the byte order mark that it may begin with. -/
def withoutMark : List Char → List Char
  | '\ufeff' :: s => s
  | s => s

/-- The records of a text. -/
def records (text : String) : List Record :=
  ((withoutMark text.toList).foldl Cursor.step {}).finish

end FluxComposer.Csv
