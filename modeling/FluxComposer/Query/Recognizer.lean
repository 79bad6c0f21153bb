import FluxComposer.Query.Model
import FluxComposer.Text.Blank
import FluxComposer.Text.Search
/-
What one line of a query text says. A line is a part if one of the calls
below stands somewhere in it, and the leftmost such call counts. The
calls have a precedence: a line that yields is only that, then come
buckets, date ranges and filters. Gaps between tokens are runs of space,
tab, carriage return and line feed.

    from(bucket: "name")
    range(start: literal)
    range(start: literal, stop: literal)
    filter(fn: (r) => r._field == "value" or r._field == "value")

Each reader takes the text at which a call may begin and answers with
what the call says and the text behind it.
-/
namespace FluxComposer.Recognizer

open Text

-- ============================================================= tokens

/-- A text without the gap at its head. -/
def skipGap (s : List Char) : List Char := s.dropWhile isGap

/-- A gap that must not be empty. -/
def gap? (s : List Char) : Option (List Char) :=
  match s with
  | c :: rest => if isGap c then some (skipGap rest) else none
  | [] => none

/-- The longest run of characters that satisfy a test, which must not be
empty. -/
def run? (test : Char → Bool) (s : List Char) :
    Option (List Char × List Char) :=
  match s.takeWhile test with
  | [] => none
  | taken => some (taken, s.dropWhile test)

/-- Characters between double quotes: at least one, none of them a
quote. There are no escapes. -/
def quoted? (s : List Char) : Option (String × List Char) := do
  let s ← after ['"'] s
  let (value, s) ← run? (· != '"') s
  let s ← after ['"'] s
  return (String.ofList value, s)

-- ============================================================== calls

/-- The call that reads a bucket. -/
def bucketCall? (s : List Char) : Option (Bucket × List Char) := do
  let s ← after "from(bucket:".toList s
  let (name, s) ← quoted? (skipGap s)
  let s ← after [')'] s
  return (.named name, s)

/-- The characters of the first bound of a range. -/
def isStartChar (c : Char) : Bool := c != ',' && c != ')' && !isBlank c

/-- The second bound of a range, with the comma before it. It runs to
the first closing parenthesis. -/
def stopBound? (s : List Char) : Option (String × List Char) := do
  let s ← after [','] (skipGap s)
  let s ← after "stop:".toList (skipGap s)
  let (stop, s) ← run? (· != ')') (skipGap s)
  return (String.ofList stop, s)

/-- The call that bounds the time. -/
def rangeCall? (s : List Char) : Option (DateRange × List Char) := do
  let s ← after "range(start:".toList s
  let (start, s) ← run? isStartChar (skipGap s)
  let start := String.ofList start
  match stopBound? s with
  | some (stop, s) =>
    let s ← after [')'] s
    return (⟨start, some stop⟩, s)
  | none =>
    let s ← after [')'] s
    return (⟨start, none⟩, s)

/-- The characters of a column name. -/
def isColumnChar (c : Char) : Bool := c == '_' || c.isAlphanum

/-- One comparison of a known column with a quoted value. -/
def clause? (s : List Char) : Option ((Column × String) × List Char) := do
  let s ← after "r.".toList s
  let (name, s) ← run? isColumnChar s
  let column ← Column.ofName? (String.ofList name)
  let s ← after "==".toList (skipGap s)
  let (value, s) ← quoted? (skipGap s)
  return ((column, value), s)

/-- The word between two comparisons, in gaps that must not be empty. -/
def orWord? (s : List Char) : Option (List Char) := do
  let s ← gap? s
  let s ← after "or".toList s
  gap? s

/-- The comparisons that follow a first one. A separating word without a
comparison behind it is left unread. At most `limit` are read; the length
of the text bounds their number. -/
def moreClauses (limit : Nat) (s : List Char) :
    List (Column × String) × List Char :=
  match limit with
  | 0 => ([], s)
  | limit + 1 =>
    match orWord? s >>= clause? with
    | some (c, s) =>
      let (cs, s) := moreClauses limit s
      (c :: cs, s)
    | none => ([], s)

/-- The filter that several comparisons make, if all of them name the
column of the first. -/
def filterOf? (first : Column × String) (more : List (Column × String)) :
    Option Filter :=
  if more.all (·.1 = first.1) then
    some ⟨first.1, .ofValues (first.2 :: more.map (·.2))⟩
  else none

/-- The call that filters one column. -/
def filterCall? (s : List Char) : Option (Filter × List Char) := do
  let s ← after "filter(fn:".toList s
  let s ← after "(r)".toList (skipGap s)
  let s ← after "=>".toList (skipGap s)
  let (first, s) ← clause? (skipGap s)
  let (more, s) := moreClauses s.length s
  let filter ← filterOf? first more
  let s ← after [')'] s
  return (filter, s)

-- ============================================================== lines

/-- What a line says. -/
inductive Reading where
  | yields
  | part (part : Part)
  | unrecognized
  deriving DecidableEq, Repr

/-- The leftmost call of one kind in a line. -/
def call? {α : Type} (read : List Char → Option (α × List Char))
    (line : List Char) : Option α :=
  leftmost (fun s => (read s).map (·.1)) line

/-- What a line says, by the precedence of the calls. -/
def recognize (line : List Char) : Reading :=
  if occursIn "yield".toList line then .yields
  else if let some b := call? bucketCall? line then .part (.bucket b)
  else if let some r := call? rangeCall? line then .part (.dateRange r)
  else if let some f := call? filterCall? line then .part (.filter f)
  else .unrecognized

end FluxComposer.Recognizer
