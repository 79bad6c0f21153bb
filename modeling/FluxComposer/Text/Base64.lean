/-
Bytes written in sixty-four letters, three bytes as four letters, with
equals signs in the place of what is missing at the end.
-/
namespace FluxComposer.Text

/-- The letter for a number below sixty-four. -/
def base64Letter (n : Nat) : Char :=
  if n < 26 then Char.ofNat (65 + n)
  else if n < 52 then Char.ofNat (71 + n)
  else if n < 62 then Char.ofNat (n - 4)
  else if n = 62 then '+' else '/'

/-- The letters for bytes. -/
def base64Letters : List UInt8 → List Char
  | a :: b :: c :: rest =>
    let n := a.toNat * 65536 + b.toNat * 256 + c.toNat
    base64Letter (n / 262144) :: base64Letter (n / 4096 % 64)
      :: base64Letter (n / 64 % 64) :: base64Letter (n % 64)
      :: base64Letters rest
  | [a, b] =>
    let n := a.toNat * 65536 + b.toNat * 256
    [base64Letter (n / 262144), base64Letter (n / 4096 % 64),
      base64Letter (n / 64 % 64), '=']
  | [a] =>
    let n := a.toNat * 65536
    [base64Letter (n / 262144), base64Letter (n / 4096 % 64), '=', '=']
  | [] => []

/-- A text in sixty-four letters. -/
def base64 (s : String) : String :=
  String.ofList (base64Letters s.toUTF8.toList)

end FluxComposer.Text
