import FluxComposer.Domain.Label
/-
Domain names, which are labels with points between them. Names that are
compared are first made alike: their characters are mapped and composed,
and encoded labels are decoded.
-/
namespace FluxComposer.Domain

/-- Whether a name needs nothing but small letters to be like others: it
is of ASCII characters and has no encoded label. -/
def isSimple (name : List Char) : Bool :=
  name.all isAscii && !(name.splitOn '.').any isEncoded

/-- The text of a name whose characters are all made alike. -/
def mappedName? (name : List Char) : Option (List Char) := do
  return Unicode.normalized (← name.mapM mapped?).flatten

/-- The labels of a name, made alike, if it is a name. -/
def labels? (name : List Char) : Option (List (List Char)) := do
  let small := name.map Char.toLower
  if isSimple small then return small.splitOn '.'
  let mapped ← mappedName? name
  let labels ← (mapped.splitOn '.').mapM labelText?
  if labels.all isLabel
      && (!labels.any (·.any turnsDirection)
        || labels.all fun label =>
          runsInOneDirection (label.map Unicode.direction)) then
    return labels
  else none

end FluxComposer.Domain
