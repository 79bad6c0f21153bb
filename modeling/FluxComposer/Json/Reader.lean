import FluxComposer.Json.Value
/-
Reading JSON text in one pass. A reading is a value as far as the text
allows one: the tree of what was met, and in the place where the text
stops being JSON a `broken` leaf, behind which nothing else was read. So
whoever walks a reading in order meets the first thing that is wrong with
it, whether that is the text or the shape of the value.

Two faults belong to a single leaf and leave the text behind it readable:
a number too large for a double and a string with half a surrogate pair.
They matter only to a reader that wants the leaf.
-/
namespace FluxComposer.Json

/-- A value as far as a text allows one. -/
inductive Reading where
  | null
  | bool (value : Bool)
  | number (value : Option Number)
  | string (value : Option String)
  | array (items : List Reading)
  | object (members : List (Option String × Reading))
  | broken
  deriving BEq, Repr, Inhabited

-- ============================================================ numbers

/-- The digits of a number that count: the leading ones as far as they
fit 64 bits, and how many were dropped behind them. -/
def leadingDigits (digits : List Char) : Nat × List Char :=
  go 0 digits
where
  go (n : Nat) : List Char → Nat × List Char
    | [] => (n, [])
    | c :: cs =>
      let next := n * 10 + (c.toNat - 48)
      if next < Nat.pow 2 64 then go next cs else (n, c :: cs)

/-- Whether `digits · 10 ^ exponent` rounds to a finite double. -/
def inDoubleRange (digits : Nat) (exponent : Int) : Bool :=
  if digits = 0 then true
  else if exponent > 308 then false
  else if exponent < 0 then true
  else digits * Nat.pow 10 exponent.toNat < Nat.pow 2 1024 - Nat.pow 2 970

/-- The number written with the given sign, digits before and behind the
point, and exponent. Without a point or an exponent it is an integer if
64 bits hold it, and minus zero is none. -/
def numberOf (negative : Bool) (whole fraction : List Char)
    (exponent : Option Int) : Option Number :=
  let (n, dropped) := leadingDigits whole
  let asDecimal (digits : Nat) (exponent : Int) :=
    if inDoubleRange digits exponent then
      some (Number.decimal negative digits exponent)
    else none
  if fraction.isEmpty && exponent.isNone && dropped.isEmpty
      && (!negative || (0 < n && n ≤ Nat.pow 2 63)) then
    some (.integer (if negative then -(n : Int) else n))
  else
    let e : Int := exponent.getD 0
    if dropped.isEmpty then
      let (m, rest) := leadingDigits (whole ++ fraction)
      asDecimal m (e - fraction.length + rest.length)
    else asDecimal n (e + dropped.length)

/-- The digits at the head of a text, and what follows them. -/
def digitRun (s : List Char) : List Char × List Char :=
  (s.takeWhile Char.isDigit, s.dropWhile Char.isDigit)

/-- An optional fraction: none, or a point with at least one digit. -/
def fractionPart? : List Char → Option (List Char × List Char)
  | '.' :: s =>
    match digitRun s with
    | ([], _) => none
    | (digits, rest) => some (digits, rest)
  | s => some ([], s)

/-- The sign and the digits of an exponent. -/
def exponentDigits? (s : List Char) : Option (Int × List Char) :=
  let (negative, s) : Bool × List Char :=
    match s with
    | '-' :: s => (true, s)
    | '+' :: s => (false, s)
    | s => (false, s)
  match digitRun s with
  | ([], _) => none
  | (digits, rest) =>
    let n : Nat := digits.foldl (fun n c => n * 10 + (c.toNat - 48)) 0
    some (if negative then -(n : Int) else (n : Int), rest)

/-- An optional exponent. -/
def exponentPart? : List Char → Option (Option Int × List Char)
  | 'e' :: s | 'E' :: s => (exponentDigits? s).map fun (e, s) => (some e, s)
  | s => some (none, s)

/-- The digits before the point: a zero alone, or digits that do not
begin with one. -/
def wholePart? (s : List Char) : Option (List Char × List Char) :=
  match digitRun s with
  | ([], _) => none
  | ('0' :: _ :: _, _) => none
  | (digits, rest) => some (digits, rest)

/-- A number at the head of a text. The outer option says whether the
text is one, the inner whether a double can hold it. -/
def number? (s : List Char) : Option (Option Number × List Char) := do
  let (negative, s) : Bool × List Char :=
    match s with
    | '-' :: s => (true, s)
    | s => (false, s)
  let (whole, s) ← wholePart? s
  let (fraction, s) ← fractionPart? s
  let (exponent, s) ← exponentPart? s
  return (numberOf negative whole fraction exponent, s)

-- ============================================================ strings

/-- The value of a hexadecimal digit. -/
def hexDigit? (c : Char) : Option Nat :=
  if '0' ≤ c ∧ c ≤ '9' then some (c.toNat - 48)
  else if 'a' ≤ c ∧ c ≤ 'f' then some (c.toNat - 87)
  else if 'A' ≤ c ∧ c ≤ 'F' then some (c.toNat - 55)
  else none

/-- The value of four hexadecimal digits. -/
def hexDigits4? (a b c d : Char) : Option Nat := do
  return (((← hexDigit? a) * 16 + (← hexDigit? b)) * 16
    + (← hexDigit? c)) * 16 + (← hexDigit? d)

/-- The character that a one-letter escape stands for. -/
def escapedChar? : Char → Option Char
  | '"' => some '"'
  | '\\' => some '\\'
  | '/' => some '/'
  | 'b' => some '\x08'
  | 'f' => some '\x0c'
  | 'n' => some '\n'
  | 'r' => some '\r'
  | 't' => some '\t'
  | _ => none

/-- What was read of a string: its characters, or nothing if half a
surrogate pair stood among them, and the text behind its closing quote. -/
abbrev StringRest := Option (List Char) × List Char

/-- One more character in front. -/
def StringRest.push (c : Char) (r : StringRest) : StringRest :=
  (r.1.map (c :: ·), r.2)

/-- The string has no value, but still an end. -/
def StringRest.spoil (r : StringRest) : StringRest := (none, r.2)

/-- The characters of a string up to its closing quote. `high` is the
first half of a surrogate pair whose second half has to come next. -/
def stringBody (high : Option Nat) : List Char → Option StringRest
  | [] => none
  | '"' :: rest => some (if high.isSome then none else some [], rest)
  | '\\' :: 'u' :: a :: b :: c :: d :: s =>
    match hexDigits4? a b c d with
    | none => none
    | some n =>
      let isLow := 0xDC00 ≤ n && n < 0xE000
      match high with
      | some h =>
        if isLow then
          let code := 0x10000 + (h - 0xD800) * 0x400 + (n - 0xDC00)
          (stringBody none s).map (.push (Char.ofNat code))
        else (stringBody none s).map .spoil
      | none =>
        if 0xD800 ≤ n && n < 0xDC00 then stringBody (some n) s
        else if isLow then (stringBody none s).map .spoil
        else (stringBody none s).map (.push (Char.ofNat n))
  | '\\' :: e :: s =>
    match escapedChar? e with
    | none => none
    | some c =>
      if high.isSome then (stringBody none s).map .spoil
      else (stringBody none s).map (.push c)
  | c :: s =>
    if c = '\\' || c.toNat < 0x20 then none
    else if high.isSome then (stringBody none s).map .spoil
    else (stringBody none s).map (.push c)

/-- A string whose opening quote has been read: its value and the text
behind it. -/
def string? (s : List Char) : Option (Option String × List Char) :=
  (stringBody none s).map fun (cs, rest) => (cs.map String.ofList, rest)

-- ============================================================= values

/-- The blanks that may stand between tokens. -/
def skipSpace (s : List Char) : List Char :=
  s.dropWhile fun c => c == ' ' || c == '\n' || c == '\t' || c == '\r'

/-- A literal word at the head of a text. -/
def word? : List Char → Option (Reading × List Char)
  | 'n' :: 'u' :: 'l' :: 'l' :: s => some (.null, s)
  | 't' :: 'r' :: 'u' :: 'e' :: s => some (.bool true, s)
  | 'f' :: 'a' :: 'l' :: 's' :: 'e' :: s => some (.bool false, s)
  | _ => none

/-- What a token gives: its reading and the text behind it, or a break
with nothing behind it. -/
def leaf {α : Type} (make : α → Reading) :
    Option (α × List Char) → Reading × Option (List Char)
  | some (a, rest) => (make a, some rest)
  | none => (.broken, none)

mutual

/-- One value. Behind a break there is no text. Each step costs one unit
of fuel; the length of the text is enough. -/
def value : (fuel : Nat) → List Char → Reading × Option (List Char)
  | 0, _ => (.broken, none)
  | fuel + 1, s =>
    match skipSpace s with
    | '"' :: s => leaf .string (string? s)
    | '[' :: s =>
      match skipSpace s with
      | ']' :: rest => (.array [], some rest)
      | s => let (xs, rest) := items fuel s; (.array xs, rest)
    | '{' :: s =>
      match skipSpace s with
      | '}' :: rest => (.object [], some rest)
      | s => let (ms, rest) := members fuel s; (.object ms, rest)
    | c :: s =>
      if c = '-' || c.isDigit then leaf .number (number? (c :: s))
      else leaf id (word? (c :: s))
    | [] => (.broken, none)

/-- The items of an array, of which at least one has to come. -/
def items : (fuel : Nat) → List Char → List Reading × Option (List Char)
  | 0, _ => ([.broken], none)
  | fuel + 1, s =>
    match value fuel s with
    | (v, none) => ([v], none)
    | (v, some s) =>
      match skipSpace s with
      | ']' :: rest => ([v], some rest)
      | ',' :: s => let (vs, rest) := items fuel s; (v :: vs, rest)
      | _ => ([v, .broken], none)

/-- The members of an object, of which at least one has to come. A key
that is not followed by a colon still counts as met. -/
def members : (fuel : Nat) → List Char →
    List (Option String × Reading) × Option (List Char)
  | 0, _ => ([(none, .broken)], none)
  | fuel + 1, s =>
    match skipSpace s with
    | '"' :: s =>
      match string? s with
      | none => ([(none, .broken)], none)
      | some (key, s) =>
        match skipSpace s with
        | ':' :: s =>
          match value fuel s with
          | (v, none) => ([(key, v)], none)
          | (v, some s) =>
            match skipSpace s with
            | '}' :: rest => ([(key, v)], some rest)
            | ',' :: s =>
              let (ms, rest) := members fuel s
              ((key, v) :: ms, rest)
            | _ => ([(key, v), (none, .broken)], none)
        | _ => ([(key, .broken)], none)
    | _ => ([(none, .broken)], none)

end

/-- The value at the head of a text, and the text behind it. -/
def read (s : List Char) : Reading × Option (List Char) :=
  value (s.length + 1) s

-- ================================================= readings of values

namespace Reading

mutual

/-- Whether a reading has no break. Leaves that no one wants may be
faulty. -/
def isWhole : Reading → Bool
  | .broken => false
  | .array xs => areWhole xs
  | .object ms => membersAreWhole ms
  | _ => true

def areWhole : List Reading → Bool
  | [] => true
  | x :: xs => x.isWhole && areWhole xs

def membersAreWhole : List (Option String × Reading) → Bool
  | [] => true
  | (_, x) :: ms => x.isWhole && membersAreWhole ms

end

mutual

/-- The value that a reading is, if it has no fault at all and nests at
most `room` containers within each other. -/
def value? : (room : Nat) → Reading → Option Json
  | _, .null => some .null
  | _, .bool b => some (.bool b)
  | _, .number n => n.map .number
  | _, .string s => s.map .string
  | room + 1, .array xs => (values? room xs).map .array
  | room + 1, .object ms => (members? room ms).map .object
  | _, _ => none

def values? : (room : Nat) → List Reading → Option (List Json)
  | _, [] => some []
  | room, x :: xs => do
    let v ← value? room x
    let vs ← values? room xs
    return v :: vs

def members? : (room : Nat) → List (Option String × Reading) →
    Option (List (String × Json))
  | _, [] => some []
  | room, (key, x) :: ms => do
    let k ← key
    let v ← value? room x
    let vs ← members? room ms
    return (k, v) :: vs

end

mutual

/-- The reading that a value is. -/
def ofJson : Json → Reading
  | .null => .null
  | .bool b => .bool b
  | .number n => .number (some n)
  | .string s => .string (some s)
  | .array xs => .array (ofItems xs)
  | .object ms => .object (ofMembers ms)

def ofItems : List Json → List Reading
  | [] => []
  | x :: xs => ofJson x :: ofItems xs

def ofMembers : List (String × Json) → List (Option String × Reading)
  | [] => []
  | (k, x) :: ms => (some k, ofJson x) :: ofMembers ms

end

end Reading

/-- How many containers a value may nest. -/
def depthLimit : Nat := 127

/-- The value that a whole text is. -/
def parse? (text : String) : Option Json :=
  match read text.toList with
  | (r, some rest) =>
    if (skipSpace rest).isEmpty then r.value? depthLimit else none
  | _ => none

end FluxComposer.Json
