import FluxComposer.Domain.Mapping
import FluxComposer.Text.Punycode
import FluxComposer.Unicode.Direction
import FluxComposer.Unicode.Joining
import FluxComposer.Unicode.Normal
/-
Labels, the parts of a domain name. A label may stand encoded behind a
prefix; then what it encodes has to be as if it had stood there itself. A
label does not begin with a mark, and it holds a joiner only where the
joiner changes how its neighbours are drawn. Where a name holds text from
right to left, the characters of each label have to run in one direction.
-/
namespace FluxComposer.Domain

open Unicode

-- ============================================================= joiners

/-- Whether the first character that is not passed over has a
property. -/
def firstJoins (joins : Char → Bool) (s : List Char) : Bool :=
  (s.dropWhile fun c => !joins c && isTransparent c).head?.any joins

/-- Whether a joiner or non-joiner may stand between two texts, the first
of which is in reverse. Every other character may. -/
def mayStand (before : List Char) (c : Char) (after : List Char) : Bool :=
  let afterVirama := before.head?.any isVirama
  if c.toNat = 0x200D then afterVirama
  else if c.toNat = 0x200C then
    afterVirama
      || firstJoins joinsNext before && firstJoins joinsPrevious after
  else true

/-- Whether every joiner in a text is in its place. What stands before the
text is given in reverse. -/
def joinersFit (before : List Char) : List Char → Bool
  | [] => true
  | c :: after => mayStand before c after && joinersFit (c :: before) after

-- =========================================================== direction

/-- Whether a label, given by the directions of its characters, runs in
one direction, that of its first character. Marks at its end go with the
character before them, and from right to left numbers are of one kind. -/
def runsInOneDirection : List Direction → Bool
  | [] => true
  | first :: rest =>
    let body := rest.reverse.dropWhile (· == .nonspacing)
    (first == .leftToRight || first == .rightToLeft)
      && body.all first.runsIn
      && body.head?.all first.endsIn
      && !(first == .rightToLeft && body.contains .arabicNumber
        && body.contains .europeanNumber)

/-- Whether a character makes its name one with text from right to
left. -/
def turnsDirection (c : Char) : Bool :=
  let d := direction c
  d == .rightToLeft || d == .arabicNumber

-- ============================================================== labels

def isAscii (c : Char) : Bool := c.toNat < 0x80

/-- What an encoded label begins with. -/
def encodedMark : List Char := "xn--".toList

def isEncoded (label : List Char) : Bool := encodedMark.isPrefixOf label

/-- The longest text that is decoded. -/
def decodedLimit : Nat := 2000

/-- The longest label that is encoded. -/
def encodedLimit : Nat := 1000

/-- The text of an encoded label. -/
def decodedLabel? (label : List Char) : Option (List Char) := do
  let encoded := label.drop encodedMark.length
  if !label.all isAscii || label.getLast? == some '-'
      || encoded.length > decodedLimit then none
  let text ← Text.Punycode.decode? encoded
  if text.all isPlain && normalized text == text && !isEncoded text then
    some text
  else none

/-- The text of a label that may be encoded. -/
def labelText? (label : List Char) : Option (List Char) :=
  if isEncoded label then decodedLabel? label
  else if label.all isAscii || label.length ≤ encodedLimit then some label
  else none

/-- Whether a text can be the text of a label. -/
def isLabel (text : List Char) : Bool :=
  !text.head?.any isMark && joinersFit [] text

end FluxComposer.Domain
