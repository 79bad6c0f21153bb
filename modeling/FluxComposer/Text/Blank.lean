/-
Blank characters, trimming, and the cutting of a text into its
statements. Which characters are blank is the Unicode property
White_Space, so a no-break space or an ideographic space trims like an
ordinary one. Everything works on lists of characters; the string forms
at the end are what the rest of the library calls.
-/
namespace FluxComposer.Text

-- ================================================== blank characters

/-- The characters with the Unicode property White_Space. -/
def isBlank (c : Char) : Bool :=
  let n := c.toNat
  (0x09 ≤ n && n ≤ 0x0D) || n == 0x20 || n == 0x85 || n == 0xA0
    || n == 0x1680 || (0x2000 ≤ n && n ≤ 0x200A)
    || n == 0x2028 || n == 0x2029 || n == 0x202F || n == 0x205F
    || n == 0x3000

/-- The four characters that may separate the tokens of a call: space,
tab, carriage return and line feed. -/
def isGap (c : Char) : Bool :=
  c == ' ' || c == '\t' || c == '\r' || c == '\n'

-- ========================================================== trimming

/-- A text without the blank characters at its end. -/
def trimRight (s : List Char) : List Char :=
  (s.reverse.dropWhile isBlank).reverse

/-- A text without the blank characters at either end. -/
def trim (s : List Char) : List Char :=
  trimRight (s.dropWhile isBlank)

/-- The statements of a text: its lines, trimmed, without the empty
ones. A carriage return before a line feed is blank, so both kinds of
line end give the same statements. -/
def statements (s : List Char) : List (List Char) :=
  ((s.splitOn '\n').map trim).filter (fun line => !line.isEmpty)

/-- A string without the blank characters at either end. -/
def trimmed (s : String) : String :=
  String.ofList (trim s.toList)

/-- Whether a string holds nothing but blank characters. -/
def isBlankText (s : String) : Bool :=
  s.toList.all isBlank

/-- A string without the slashes at its end. -/
def withoutTrailingSlashes (s : String) : String :=
  String.ofList (s.toList.reverse.dropWhile (· == '/')).reverse

end FluxComposer.Text
