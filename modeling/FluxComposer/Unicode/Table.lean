/-
Tables of characters, written compactly. A table is a list of rows, with
a blank between them: a code or a range of codes, both in base sixteen,
and behind an equals sign the numbers that the table gives them.

    41-5A=61 AD B2=32 BC=31.2044.34
-/
namespace FluxComposer.Unicode

/-- A row of a table: the codes from `first` to `last`, and what the
table says of them. -/
structure Row where
  first : Nat
  last : Nat
  values : List Nat := []
  deriving DecidableEq, Repr

abbrev Table := List Row

/-- The value of a digit of base sixteen. -/
def hexDigit (c : Char) : Nat :=
  if c.isDigit then c.toNat - '0'.toNat else c.toNat - 'A'.toNat + 10

/-- The number that digits of base sixteen write. -/
def hexNumber (s : List Char) : Nat :=
  s.foldl (fun n c => n * 16 + hexDigit c) 0

/-- The row that a text writes. -/
def Row.read (s : List Char) : Row :=
  let range := s.takeWhile (· != '=')
  let values := (s.dropWhile (· != '=')).drop 1
  let first := range.takeWhile (· != '-')
  let last := (range.dropWhile (· != '-')).drop 1
  { first := hexNumber first
    last := hexNumber (if last.isEmpty then first else last)
    values :=
      if values.isEmpty then [] else (values.splitOn '.').map hexNumber }

namespace Table

/-- The table that lines of text write. -/
def ofLines (lines : List String) : Table :=
  lines.flatMap fun line => (line.toList.splitOn ' ').map Row.read

/-- The row that a character stands in. -/
def row? (t : Table) (c : Char) : Option Row :=
  t.find? fun row => row.first ≤ c.toNat && c.toNat ≤ row.last

/-- Whether a character stands in a table. -/
def covers (t : Table) (c : Char) : Bool := (t.row? c).isSome

end Table

end FluxComposer.Unicode
