/-
Texts in letters, digits and hyphens alone. The plain characters of a
text come first, with a hyphen behind them; then come numbers, one for
each of the other characters in the order of their codes. A number counts
the places that the insertion of its character passes over, where each
round through the text is a step to the next code.

A number is written in digits of base thirty-six, the lowest first. A
digit below the threshold of its column ends the number, and the
thresholds follow the size of the numbers before.
-/
namespace FluxComposer.Text.Punycode

/-- The number of digits. -/
def base : Nat := 36

/-- The bound of the numbers. -/
def bound : Nat := Nat.pow 2 32

/-- The value of a digit: letters come before the ten digits. -/
def digit? (c : Char) : Option Nat :=
  if 'a' ≤ c ∧ c ≤ 'z' then some (c.toNat - 'a'.toNat)
  else if 'A' ≤ c ∧ c ≤ 'Z' then some (c.toNat - 'A'.toNat)
  else if '0' ≤ c ∧ c ≤ '9' then some (c.toNat - '0'.toNat + 26)
  else none

/-- The threshold of a column: between one and twenty-six, and what the
column stands above the bias in between. -/
def threshold (column bias : Nat) : Nat := max 1 (min 26 (column - bias))

/-- Brings a number down to the range where the bias is read off it. -/
def scaled (delta bias : Nat) : Nat :=
  if h : 455 < delta then scaled (delta / 35) (bias + base)
  else bias + base * delta / (delta + 38)
termination_by delta
decreasing_by exact Nat.div_lt_self (by omega) (by omega)

/-- The bias behind a number, by which `count` characters stand in the
text. -/
def adapted (delta count : Nat) (isFirst : Bool) : Nat :=
  let delta := if isFirst then delta / 700 else delta / 2
  scaled (delta + delta / count) 0

/-- A text that is being decoded. -/
structure State where
  text : List Char
  /-- The code of the character that was inserted last. -/
  code : Nat := 128
  /-- The place behind that character. -/
  place : Nat := 0
  bias : Nat := 72
  /-- The number that is being read, counted on from the place. -/
  sum : Nat := 0
  /-- The weight of the next digit. -/
  weight : Nat := 1
  /-- The column of the next digit. -/
  column : Nat := base
  deriving DecidableEq, Repr

/-- Inserts a character where the number that was read says. -/
def State.insert (s : State) (sum : Nat) : Option State :=
  let count := s.text.length + 1
  let code := s.code + sum / count
  let place := sum % count
  if code.isValidChar then
    some {
      text := s.text.insertIdx place (.ofNat code)
      code
      place := place + 1
      bias := adapted (sum - s.place) count (s.place == 0)
      sum := place + 1 }
  else none

/-- Reads a digit. -/
def State.step (s : State) (c : Char) : Option State := do
  let digit ← digit? c
  let sum := s.sum + digit * s.weight
  let threshold := threshold s.column s.bias
  let weight := s.weight * (base - threshold)
  if bound ≤ sum then none
  else if digit < threshold then s.insert sum
  else if bound ≤ weight then none
  else some { s with sum, weight, column := s.column + base }

/-- The plain characters of an encoded text and the digits behind
them. -/
def split (s : List Char) : List Char × List Char :=
  let digits := (s.reverse.takeWhile (· != '-')).reverse
  let plain := s.take (s.length - digits.length - 1)
  if plain.isEmpty then ([], s) else (plain, digits)

/-- The text that is encoded. -/
def decode? (s : List Char) : Option (List Char) := do
  let (plain, digits) := split s
  let state ← digits.foldlM State.step { text := plain }
  if state.column = base then some state.text else none

end FluxComposer.Text.Punycode
