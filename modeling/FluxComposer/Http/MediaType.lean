/-
Media types: a type, a subtype with an optional suffix behind a plus
sign, and parameters behind semicolons. Tokens are of letters, digits and
certain marks; a parameter may have its value between quotes, where a
backslash is a character like any other and the first character belongs
to the value even if it is a quote.
-/
namespace FluxComposer.Http

/-- The characters of a token. -/
def isTokenChar (c : Char) : Bool :=
  c.isAlphanum || "!#$%&'*+-.^_\x60|~".toList.contains c

/-- The characters between quotes. -/
def isQuotedChar (c : Char) : Bool := 31 < c.toNat && c.toNat < 127

/-- Where in the parameters of a media type the next character stands. -/
inductive ParameterPlace where
  /-- Before a name; blanks may come first. -/
  | nameStart
  | name
  | valueStart
  | value
  /-- Behind an opening quote, before the first character of the value. -/
  | quotedStart
  | quoted
  /-- Behind a closing quote. -/
  | afterQuoted
  deriving DecidableEq

/-- Reads one character of the parameters. -/
def ParameterPlace.step : ParameterPlace → Char → Option ParameterPlace
  | .nameStart, c =>
    if c = ' ' then some .nameStart
    else if isTokenChar c then some .name else none
  | .name, c =>
    if c = '=' then some .valueStart
    else if isTokenChar c then some .name else none
  | .valueStart, c =>
    if c = '"' then some .quotedStart
    else if isTokenChar c then some .value else none
  | .value, c =>
    if c = ';' then some .nameStart
    else if isTokenChar c then some .value else none
  | .quotedStart, c => if isQuotedChar c then some .quoted else none
  | .quoted, c =>
    if c = '"' then some .afterQuoted
    else if isQuotedChar c then some .quoted else none
  | .afterQuoted, c =>
    if c = ';' then some .nameStart
    else if c = ' ' then some .afterQuoted else none

/-- Whether parameters may end here. -/
def ParameterPlace.isEnd : ParameterPlace → Bool
  | .nameStart | .valueStart | .value | .afterQuoted => true
  | _ => false

/-- Whether a text is a sequence of parameters. -/
def areParameters (s : List Char) : Bool :=
  (s.foldlM ParameterPlace.step .nameStart).any (·.isEnd)

/-- A subtype and its suffix, if it has one: what stands before and
behind the last plus sign that is not its first character. -/
def splitSuffix (subtype : List Char) : List Char × Option (List Char) :=
  let suffix := (subtype.reverse.takeWhile (· != '+')).reverse
  let stem := subtype.take (subtype.length - suffix.length - 1)
  if suffix.length < subtype.length ∧ !stem.isEmpty then
    (stem, some suffix)
  else (subtype, none)

/-- Whether a content type says JSON: the type `application` with the
subtype or the suffix `json`. -/
def isJson (contentType : String) : Bool :=
  let s := contentType.toList.map Char.toLower
  let type := s.takeWhile (· != '/')
  match s.dropWhile (· != '/') with
  | '/' :: rest =>
    let subtype := rest.takeWhile (· != ';')
    let parameters := (rest.dropWhile (· != ';')).drop 1
    let (stem, suffix) := splitSuffix subtype
    type == "application".toList && !subtype.isEmpty
      && subtype.all isTokenChar && areParameters parameters
      && (stem == "json".toList || suffix == some "json".toList)
  | _ => false

end FluxComposer.Http
