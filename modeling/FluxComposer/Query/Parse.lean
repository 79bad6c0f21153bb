import FluxComposer.Query.Recognizer
/-
Reading a query back from its text. Every line is taken on its own. A
line that is no part is passed over unless it pipes into a stage: then
the query says more than parts can, and the whole text is kept raw.
-/
namespace FluxComposer.Query

open Text Recognizer

/-- The part that a line contributes. -/
def linePart? (line : List Char) : Option Part :=
  match recognize line with
  | .part part => some part
  | _ => none

/-- Whether a line pipes into a stage that no part stands for. -/
def isForeignStage (line : List Char) : Bool :=
  recognize line = .unrecognized && occursIn "|>".toList line

/-- The query that a text describes: its parts in the order of their
lines, or the text itself where some line is a foreign stage. -/
def parse (text : String) : Query :=
  let lines := statements text.toList
  if lines.any isForeignStage then raw text
  else ofParts (lines.filterMap linePart?)

end FluxComposer.Query
