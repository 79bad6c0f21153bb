import FluxComposer.Query.Model
/-
Editing a query by position. These are the elementary edits: none of
them keeps parts of one kind unique, and each has its own rule for the
raw text. Appending and keeping drop it, replacing keeps it, and removing
keeps it only where no part is left.
-/
namespace FluxComposer.Query

/-- The query with one more part at its end. Editing parts takes over
from a raw text, which is dropped. -/
def append (q : Query) (part : Part) : Query := ofParts (q.parts ++ [part])

/-- The query without the part at `index`. A raw text stays only where
no part is left; without a part at `index` nothing changes. -/
def removeAt (q : Query) (index : Nat) : Query :=
  if index < q.parts.length then
    let parts := q.parts.eraseIdx index
    { parts, rawText := if parts.isEmpty then q.rawText else none }
  else q

/-- The query with another part at `index`. The raw text stays; without
a part at `index` nothing changes. -/
def replaceAt (q : Query) (index : Nat) (part : Part) : Query :=
  { q with parts := q.parts.set index part }

/-- The parts that satisfy a test. A raw text is dropped. -/
def keep (q : Query) (test : Part → Bool) : Query :=
  ofParts (q.parts.filter test)

end FluxComposer.Query
