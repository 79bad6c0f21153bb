/-
Percent codes: bytes written as a percent sign and two digits in base
sixteen. Segments of a path are coded and decoded with them; in the
parameters of a query a space is a plus sign.
-/
namespace FluxComposer.Text

/-- A digit in base sixteen, with capital letters. -/
def upperHexDigit (n : Nat) : Char :=
  if n < 10 then Char.ofNat (48 + n) else Char.ofNat (55 + n)

/-- The code of a byte. -/
def percentCode (b : UInt8) : List Char :=
  ['%', upperHexDigit (b.toNat / 16), upperHexDigit (b.toNat % 16)]

/-- Codes all bytes of the characters that fail a test. -/
def percentEncode (keep : Char → Bool) (s : String) : String :=
  String.ofList (s.toList.flatMap fun c =>
    if keep c then [c] else (String.utf8EncodeChar c).flatMap percentCode)

/-- A segment of a path: letters, digits and four marks stand for
themselves. -/
def encodeSegment (s : String) : String :=
  percentEncode (fun c => c.isAlphanum || c == '-' || c == '_' || c == '.'
    || c == '~') s

/-- A value in a query: as a segment, but with a star instead of a tilde
and with spaces as plus signs. -/
def encodeParameter (s : String) : String :=
  let coded := percentEncode (fun c => c.isAlphanum || c == '-' || c == '_'
    || c == '.' || c == '*' || c == ' ') s
  String.ofList (coded.toList.map fun c => if c = ' ' then '+' else c)

/-- Parameters with their values, joined. -/
def encodeParameters (ps : List (String × String)) : String :=
  "&".intercalate
    (ps.map fun p => encodeParameter p.1 ++ "=" ++ encodeParameter p.2)

-- =========================================================== decoding

/-- The value of a digit in base sixteen. -/
def hexValue? (b : UInt8) : Option UInt8 :=
  if 48 ≤ b ∧ b ≤ 57 then some (b - 48)
  else if 65 ≤ b ∧ b ≤ 70 then some (b - 55)
  else if 97 ≤ b ∧ b ≤ 102 then some (b - 87)
  else none

/-- Bytes with their codes resolved. A percent sign that begins no code
stands for itself. -/
def decodeBytes : List UInt8 → List UInt8
  | 37 :: a :: b :: s =>
    match hexValue? a, hexValue? b with
    | some m, some n => (m * 16 + n) :: decodeBytes s
    | _, _ => 37 :: decodeBytes (a :: b :: s)
  | c :: s => c :: decodeBytes s
  | [] => []

/-- A text with its codes resolved, if that leaves a text. -/
def percentDecode? (s : String) : Option String :=
  String.fromUTF8? ⟨(decodeBytes s.toUTF8.toList).toArray⟩

end FluxComposer.Text
