import FluxComposer.Toml.Value
import FluxComposer.Text.Search
import FluxComposer.Json.Reader
/-
The values of TOML that hold no other values, and keys. Strings come in
four forms: between quotes with escapes or between apostrophes without,
and each of them on one line or, between triple delimiters, on several.
Numbers may have single underscores between digits. Each reader answers
with what it read and the text behind it.
-/
namespace FluxComposer.Toml

open Text
open Json (hexDigit? hexDigits4?)

-- ============================================================ strings

/-- The characters that a string, a comment or a key may hold as they
stand: the tab and everything that is no control character. -/
def isTextChar (c : Char) : Bool :=
  c == '\t' || (0x20 ≤ c.toNat && c.toNat != 0x7F)

/-- The character with a code, if there is one. -/
def charOfCode? (n : Nat) : Option Char :=
  if n.isValidChar then some (Char.ofNat n) else none

/-- The character that a one-letter escape stands for. -/
def escapedChar? : Char → Option Char
  | 'b' => some '\x08'
  | 't' => some '\t'
  | 'n' => some '\n'
  | 'f' => some '\x0c'
  | 'r' => some '\r'
  | '"' => some '"'
  | '\\' => some '\\'
  | _ => none

/-- The characters of a string, and the text behind it. -/
abbrev StringRest := List Char × List Char

/-- One more character in front. -/
def push (c : Char) (r : Option StringRest) : Option StringRest :=
  r.map fun (cs, rest) => (c :: cs, rest)

/-- A string on one line with escapes, up to its closing quote. -/
def basicBody : List Char → Option StringRest
  | [] => none
  | '"' :: rest => some ([], rest)
  | '\\' :: 'u' :: a :: b :: c :: d :: s =>
    match (hexDigits4? a b c d).bind charOfCode? with
    | some x => push x (basicBody s)
    | none => none
  | '\\' :: 'U' :: a :: b :: c :: d :: e :: f :: g :: h :: s =>
    match hexDigits4? a b c d, hexDigits4? e f g h with
    | some m, some n =>
      match charOfCode? (m * 0x10000 + n) with
      | some x => push x (basicBody s)
      | none => none
    | _, _ => none
  | '\\' :: e :: s =>
    match escapedChar? e with
    | some x => push x (basicBody s)
    | none => none
  | c :: s =>
    if isTextChar c && c != '\\' then push c (basicBody s) else none

/-- A string without escapes on one line, up to its apostrophe. -/
def literalBody : List Char → Option StringRest
  | [] => none
  | '\'' :: rest => some ([], rest)
  | c :: s => if isTextChar c then push c (literalBody s) else none

/-- A string without escapes on several lines, up to three apostrophes.
Two more may end it. -/
def literalLines : List Char → Option StringRest
  | [] => none
  | '\'' :: '\'' :: '\'' :: '\'' :: '\'' :: rest => some (['\'', '\''], rest)
  | '\'' :: '\'' :: '\'' :: '\'' :: rest => some (['\''], rest)
  | '\'' :: '\'' :: '\'' :: rest => some ([], rest)
  | '\r' :: '\n' :: s => push '\n' (literalLines s)
  | c :: s =>
    if isTextChar c || c == '\n' then push c (literalLines s) else none

/-- How the characters of a string on several lines are taken. -/
inductive LineMode where
  /-- As they stand. -/
  | text
  /-- Behind a backslash that ends a line: up to the line end. -/
  | lineEnd
  /-- Behind such a line end: up to the next visible character. -/
  | blanks
  deriving DecidableEq

/-- A string with escapes on several lines, up to three quotes. Two more
may end it. A backslash at the end of a line takes away the blanks and
line ends that follow. -/
def basicLines (mode : LineMode) : List Char → Option StringRest
  | [] => none
  | ' ' :: s =>
    if mode = .text then push ' ' (basicLines .text s)
    else basicLines mode s
  | '\t' :: s =>
    if mode = .text then push '\t' (basicLines .text s)
    else basicLines mode s
  | '\n' :: s =>
    if mode = .text then push '\n' (basicLines .text s)
    else basicLines .blanks s
  | '\r' :: '\n' :: s =>
    if mode = .text then push '\n' (basicLines .text s)
    else basicLines .blanks s
  | '"' :: '"' :: '"' :: '"' :: '"' :: rest =>
    if mode = .lineEnd then none else some (['"', '"'], rest)
  | '"' :: '"' :: '"' :: '"' :: rest =>
    if mode = .lineEnd then none else some (['"'], rest)
  | '"' :: '"' :: '"' :: rest =>
    if mode = .lineEnd then none else some ([], rest)
  | '\\' :: 'u' :: a :: b :: c :: d :: s =>
    if mode = .lineEnd then none
    else match (hexDigits4? a b c d).bind charOfCode? with
    | some x => push x (basicLines .text s)
    | none => none
  | '\\' :: 'U' :: a :: b :: c :: d :: e :: f :: g :: h :: s =>
    if mode = .lineEnd then none
    else match hexDigits4? a b c d, hexDigits4? e f g h with
    | some m, some n =>
      match charOfCode? (m * 0x10000 + n) with
      | some x => push x (basicLines .text s)
      | none => none
    | _, _ => none
  | '\\' :: e :: s =>
    if mode = .lineEnd then none
    else match escapedChar? e with
    | some x => push x (basicLines .text s)
    | none =>
      if e = '\n' then basicLines .blanks s
      else if e = ' ' ∨ e = '\t' ∨ e = '\r' then
        match e, s with
        | '\r', '\n' :: s => basicLines .blanks s
        | '\r', _ => none
        | _, s => basicLines .lineEnd s
      else none
  | c :: s =>
    if mode = .lineEnd then none
    else if isTextChar c && c != '\\' then push c (basicLines .text s)
    else none

/-- A text without the line end at its head. -/
def dropLineEnd : List Char → List Char
  | '\n' :: s => s
  | '\r' :: '\n' :: s => s
  | s => s

/-- A string in any of its forms. -/
def string? (s : List Char) : Option (String × List Char) :=
  let found :=
    match s with
    | '"' :: '"' :: '"' :: s => basicLines .text (dropLineEnd s)
    | '"' :: s => basicBody s
    | '\'' :: '\'' :: '\'' :: s => literalLines (dropLineEnd s)
    | '\'' :: s => literalBody s
    | _ => none
  found.map fun (cs, rest) => (String.ofList cs, rest)

-- =============================================================== keys

/-- A text without the spaces and tabs at its head. -/
def skipBlanks (s : List Char) : List Char :=
  s.dropWhile fun c => c == ' ' || c == '\t'

/-- The characters of a key without quotes. -/
def isBareChar (c : Char) : Bool := c.isAlphanum || c == '_' || c == '-'

/-- One key: bare, or a string on one line. -/
def simpleKey? (s : List Char) : Option (String × List Char) :=
  match s with
  | '"' :: s => (basicBody s).map fun (cs, r) => (String.ofList cs, r)
  | '\'' :: s => (literalBody s).map fun (cs, r) => (String.ofList cs, r)
  | s =>
    match s.takeWhile isBareChar with
    | [] => none
    | cs => some (String.ofList cs, s.dropWhile isBareChar)

/-- Keys joined by points, at most `limit` of them, with blanks around
each: the path before the last key, and the last key. -/
def dottedKey? (limit : Nat) (s : List Char) :
    Option ((List String × String) × List Char) :=
  match limit with
  | 0 => none
  | limit + 1 => do
    let (key, s) ← simpleKey? (skipBlanks s)
    match skipBlanks s with
    | '.' :: s =>
      let ((path, last), s) ← dottedKey? limit s
      return ((key :: path, last), s)
    | s => return (([], key), s)

-- ============================================================ numbers

/-- Digits of one kind with single underscores between them, up to the
first other character. -/
def digitsTail (isDigit : Char → Bool) : List Char → List Char × List Char
  | '_' :: c :: s =>
    if isDigit c then
      let (cs, rest) := digitsTail isDigit s
      (c :: cs, rest)
    else ([], '_' :: c :: s)
  | c :: s =>
    if isDigit c then
      let (cs, rest) := digitsTail isDigit s
      (c :: cs, rest)
    else ([], c :: s)
  | [] => ([], [])

/-- At least one digit of one kind, with underscores between digits. -/
def digits? (isDigit : Char → Bool) :
    List Char → Option (List Char × List Char)
  | c :: s =>
    if isDigit c then
      let (cs, rest) := digitsTail isDigit s
      some (c :: cs, rest)
    else none
  | [] => none

/-- The number that digits write in a base. -/
def numeral (base : Nat) (digits : List Char) : Nat :=
  digits.foldl (fun n c => n * base + (hexDigit? c).getD 0) 0

/-- An optional sign: whether it is a minus. -/
def sign : List Char → Bool × List Char
  | '-' :: s => (true, s)
  | '+' :: s => (false, s)
  | s => (false, s)

/-- The digits of a decimal number before the point: a zero alone, or
digits that do not begin with one. -/
def wholeDigits? : List Char → Option (List Char × List Char)
  | '0' :: s => some (['0'], s)
  | s => digits? Char.isDigit s

/-- An integer that 64 bits with a sign hold. -/
def int64? (n : Int) : Option Toml :=
  let bound : Int := Nat.pow 2 63
  if -bound ≤ n ∧ n < bound then some (.integer n) else none

/-- An integer in base sixteen, eight, two or ten. Only the last may have
a sign. -/
def integer? (s : List Char) : Option (Toml × List Char) := do
  match s with
  | '0' :: 'x' :: s =>
    let (ds, s) ← digits? (fun c => (hexDigit? c).isSome) s
    return (← int64? (numeral 16 ds), s)
  | '0' :: 'o' :: s =>
    let (ds, s) ← digits? (fun c => '0' ≤ c && c ≤ '7') s
    return (← int64? (numeral 8 ds), s)
  | '0' :: 'b' :: s =>
    let (ds, s) ← digits? (fun c => c == '0' || c == '1') s
    return (← int64? (numeral 2 ds), s)
  | s =>
    let (negative, s) := sign s
    let (ds, s) ← wholeDigits? s
    let n : Int := numeral 10 ds
    return (← int64? (if negative then -n else n), s)

/-- Whether `digits · 10 ^ exponent` rounds to a finite double. -/
def isFinite (digits : List Char) (exponent : Int) : Bool :=
  let ds := digits.dropWhile (· == '0')
  let magnitude : Int := exponent + ds.length
  if ds.isEmpty || magnitude < 309 then true
  else if magnitude > 309 then false
  else
    let n := numeral 10 ds
    let bound := Nat.pow 2 1024 - Nat.pow 2 970
    if exponent ≥ 0 then n * Nat.pow 10 exponent.toNat < bound
    else n < bound * Nat.pow 10 (-exponent).toNat

/-- An exponent with its sign. -/
def exponent? : List Char → Option (Int × List Char)
  | 'e' :: s | 'E' :: s => do
    let (negative, s) := sign s
    let (ds, s) ← digits? Char.isDigit s
    let n : Int := numeral 10 ds
    return (if negative then -n else n, s)
  | _ => none

/-- A float with a fraction, an exponent or both. One too large for a
double is refused, unless it is negative. -/
def fractional? (s : List Char) : Option (Toml × List Char) := do
  let (negative, s) := sign s
  let (whole, s) ← wholeDigits? s
  let (fraction, exponent, s) ←
    match s with
    | '.' :: s => do
      let (ds, s) ← digits? Char.isDigit s
      match s with
      | 'e' :: _ | 'E' :: _ =>
        let (e, s) ← exponent? s
        pure (ds, e, s)
      | s => pure (ds, 0, s)
    | s => do
      let (e, s) ← exponent? s
      pure ([], e, s)
  if negative || isFinite (whole ++ fraction) (exponent - fraction.length)
  then return (.float, s)
  else none

/-- An infinity or what is not a number. -/
def specialFloat? (s : List Char) : Option (Toml × List Char) :=
  match (sign s).2 with
  | 'i' :: 'n' :: 'f' :: s => some (.float, s)
  | 'n' :: 'a' :: 'n' :: s => some (.float, s)
  | _ => none

-- ============================================================== dates

/-- A number of exactly two digits within bounds. -/
def twoDigits? (low high : Nat) : List Char → Option (Nat × List Char)
  | a :: b :: s =>
    if a.isDigit && b.isDigit then
      let n := numeral 10 [a, b]
      if low ≤ n ∧ n ≤ high then some (n, s) else none
    else none
  | _ => none

/-- The number of days of a month. -/
def daysOf (year month : Nat) : Nat :=
  if month = 2 then
    if year % 4 = 0 ∧ (year % 100 ≠ 0 ∨ year % 400 = 0) then 29 else 28
  else if month = 4 ∨ month = 6 ∨ month = 9 ∨ month = 11 then 30
  else 31

/-- A calendar date; the text behind it. -/
def date? (s : List Char) : Option (List Char) := do
  match s with
  | a :: b :: c :: d :: '-' :: s =>
    if [a, b, c, d].all Char.isDigit then
      let (month, s) ← twoDigits? 1 12 s
      let s ← after ['-'] s
      let (_, s) ← twoDigits? 1 (daysOf (numeral 10 [a, b, c, d]) month) s
      return s
    else none
  | _ => none

/-- A time of day; the text behind it. -/
def time? (s : List Char) : Option (List Char) := do
  let (_, s) ← twoDigits? 0 23 s
  let s ← after [':'] s
  let (_, s) ← twoDigits? 0 59 s
  let s ← after [':'] s
  let (_, s) ← twoDigits? 0 60 s
  match s with
  | '.' :: c :: s =>
    if c.isDigit then return s.dropWhile Char.isDigit else none
  | s => return s

/-- The distance from universal time, if there is one. -/
def offset? : List Char → Option (List Char)
  | 'Z' :: s | 'z' :: s => some s
  | '+' :: s | '-' :: s => do
    let (_, s) ← twoDigits? 0 23 s
    let s ← after [':'] s
    let (_, s) ← twoDigits? 0 59 s
    return s
  | s => some s

/-- A date, a time of day, or both with an optional distance from
universal time. A date may stand alone before a blank. -/
def datetime? (s : List Char) : Option (Toml × List Char) :=
  match date? s with
  | some s =>
    match s with
    | c :: rest =>
      if c = 'T' ∨ c = 't' ∨ c = ' ' then
        match (time? rest).bind offset? with
        | some s => some (.datetime, s)
        | none => some (.datetime, c :: rest)
      else some (.datetime, c :: rest)
    | [] => some (.datetime, [])
  | none => (time? s).map fun s => (.datetime, s)

-- ============================================================= values

/-- A value that holds no other values. -/
def scalar? (s : List Char) : Option (Toml × List Char) :=
  match s with
  | '"' :: _ | '\'' :: _ => (string? s).map fun (v, s) => (.string v, s)
  | 't' :: 'r' :: 'u' :: 'e' :: s => some (.boolean true, s)
  | 'f' :: 'a' :: 'l' :: 's' :: 'e' :: s => some (.boolean false, s)
  | s =>
    match datetime? s with
    | some r => some r
    | none =>
      match fractional? s with
      | some r => some r
      | none =>
        match specialFloat? s with
        | some r => some r
        | none => integer? s

end FluxComposer.Toml
