import FluxComposer.Json.Value
/-
Writing JSON. Compact text has no blanks; indented text gives each item
and member a line of its own, two blanks deeper than its container. The
quote, the backslash and the control characters are escaped and nothing
else is.
-/
namespace FluxComposer.Json

-- ============================================================= leaves

/-- A digit in base sixteen. -/
def lowerHexDigit (n : Nat) : Char :=
  if n < 10 then Char.ofNat (48 + n) else Char.ofNat (87 + n)

/-- A character within a string. -/
def escape (c : Char) : List Char :=
  match c with
  | '"' => ['\\', '"']
  | '\\' => ['\\', '\\']
  | '\x08' => ['\\', 'b']
  | '\x0c' => ['\\', 'f']
  | '\n' => ['\\', 'n']
  | '\r' => ['\\', 'r']
  | '\t' => ['\\', 't']
  | c =>
    if c.toNat < 0x20 then
      ['\\', 'u', '0', '0', lowerHexDigit (c.toNat / 16),
        lowerHexDigit (c.toNat % 16)]
    else [c]

/-- A string between its quotes. -/
def quote (s : String) : String :=
  String.ofList ('"' :: (s.toList.flatMap escape ++ ['"']))

/-- A decimal by its digits and the place of the point behind the first
of them. Up to sixteen digits before the point, and up to four zeros
behind it, are written out; otherwise the point stands behind the first
digit and an exponent follows. -/
def decimalText (digits : List Char) (point : Int) : List Char :=
  let zeros (n : Int) : List Char := List.replicate n.toNat '0'
  let count : Int := digits.length
  if count ≤ point ∧ point ≤ 16 then
    digits ++ zeros (point - count) ++ ['.', '0']
  else if 0 < point ∧ point ≤ 16 then
    digits.take point.toNat ++ '.' :: digits.drop point.toNat
  else if -5 < point ∧ point ≤ 0 then
    '0' :: '.' :: zeros (-point) ++ digits
  else
    let fraction := match digits.drop 1 with
      | [] => []
      | rest => '.' :: rest
    digits.take 1 ++ fraction ++ 'e' :: (toString (point - 1)).toList

/-- A number. The digits of a decimal are written without the zeros at
their end. -/
def Number.text : Number → String
  | .integer n => toString n
  | .decimal negative digits exponent =>
    let ds := Nat.toDigits 10 digits
    let kept := (ds.reverse.dropWhile (· == '0')).reverse
    String.ofList ((if negative then ['-'] else []) ++
      if kept.isEmpty then ['0', '.', '0']
      else decimalText kept (ds.length + exponent))

-- ======================================================= compact text

mutual

/-- The text of a value without blanks. -/
def compact : Json → String
  | .null => "null"
  | .bool b => if b then "true" else "false"
  | .number n => n.text
  | .string s => quote s
  | .array xs => "[" ++ ",".intercalate (compactItems xs) ++ "]"
  | .object ms =>
    "\x7b" ++ ",".intercalate (compactMembers ms) ++ "\x7d"

def compactItems : List Json → List String
  | [] => []
  | x :: xs => compact x :: compactItems xs

def compactMembers : List (String × Json) → List String
  | [] => []
  | (k, x) :: ms => (quote k ++ ":" ++ compact x) :: compactMembers ms

end

-- ====================================================== indented text

/-- A line break and the blanks before what stands at a depth. -/
def lineAt (depth : Nat) : String :=
  "\n" ++ String.ofList (List.replicate (2 * depth) ' ')

/-- Entries on lines of their own between two brackets; without entries
the brackets alone. -/
def bracketed (opening closing : String) (depth : Nat) :
    List String → String
  | [] => opening ++ closing
  | entries =>
    opening ++ lineAt (depth + 1)
      ++ ("," ++ lineAt (depth + 1)).intercalate entries
      ++ lineAt depth ++ closing

mutual

/-- The indented text of a value that stands at a depth. -/
def indentedAt (depth : Nat) : Json → String
  | .null => "null"
  | .bool b => if b then "true" else "false"
  | .number n => n.text
  | .string s => quote s
  | .array xs => bracketed "[" "]" depth (indentedItems (depth + 1) xs)
  | .object ms =>
    bracketed "\x7b" "\x7d" depth (indentedMembers (depth + 1) ms)

def indentedItems (depth : Nat) : List Json → List String
  | [] => []
  | x :: xs => indentedAt depth x :: indentedItems depth xs

def indentedMembers (depth : Nat) : List (String × Json) → List String
  | [] => []
  | (k, x) :: ms =>
    (quote k ++ ": " ++ indentedAt depth x) :: indentedMembers depth ms

end

/-- The indented text of a value. -/
def indented (j : Json) : String := indentedAt 0 j

end FluxComposer.Json
