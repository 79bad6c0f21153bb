/-
Matching literals at the head of a text and looking for the leftmost
place where a reader succeeds. A reader takes a text and answers with
what it read and the text behind it.
-/
namespace FluxComposer.Text

/-- What follows `literal` in a text that begins with it. -/
def after : (literal : List Char) → List Char → Option (List Char)
  | [], s => some s
  | _ :: _, [] => none
  | c :: literal, d :: s => if c = d then after literal s else none

theorem after_eq_some_iff {literal s rest : List Char} :
    after literal s = some rest ↔ s = literal ++ rest := by
  induction literal generalizing s with
  | nil => simp [after]
  | cons c literal ih =>
    cases s with
    | nil => simp [after]
    | cons d s =>
      by_cases h : c = d
      · simp [after, h, ih]
      · simp [after, h, Ne.symm h]

/-- Whether `needle` stands somewhere in the text. -/
def occursIn (needle : List Char) : List Char → Bool
  | [] => needle.isEmpty
  | c :: s => needle.isPrefixOf (c :: s) || occursIn needle s

/-- The answer of `read` at the leftmost place where it has one. -/
def leftmost {α : Type} (read : List Char → Option α) :
    List Char → Option α
  | [] => read []
  | c :: s =>
    match read (c :: s) with
    | some a => some a
    | none => leftmost read s

/-- Whether `needle` stands somewhere in a string. -/
def mentions (needle : String) (s : String) : Bool :=
  occursIn needle.toList s.toList

end FluxComposer.Text
