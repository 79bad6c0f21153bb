import FluxComposer.Unicode.Combining
import FluxComposer.Unicode.Composition
/-
The composed form of a text, which is the same for all spellings of its
characters. A text is taken apart into letters and marks, the marks of
each letter are put in the order of their classes, and what can be put
together is put together again.
-/
namespace FluxComposer.Unicode

-- ======================================================= decomposition

/-- How often a character can be taken apart. -/
def compositionDepth : Nat := 3

/-- A character in its parts, taken apart as often as `depth` says. -/
def decomposed : (depth : Nat) → Char → List Char
  | 0, c => [c]
  | depth + 1, c =>
    match parts? c with
    | some (a, b) => decomposed depth a ++ [b]
    | none => [c]

-- =============================================================== order

/-- Puts a character before others, or a mark behind those marks among
them whose class is lower. -/
def insertMark (c : Char) : List Char → List Char
  | [] => [c]
  | d :: ds =>
    if !isStarter d && combiningClass d < combiningClass c then
      d :: insertMark c ds
    else c :: d :: ds

/-- A text with the marks of each letter in the order of their
classes. -/
def ordered (s : List Char) : List Char := s.foldr insertMark []

-- ========================================================= composition

/-- A text that is being composed: what is finished, the letter that
takes further marks, and the marks that it did not take. The two texts
are in reverse. -/
structure Composing where
  finished : List Char := []
  starter : Option Char := none
  marks : List Char := []

namespace Composing

/-- The text so far, in reverse. -/
def all (s : Composing) : List Char :=
  s.marks ++ s.starter.toList ++ s.finished

/-- Whether a mark that was not taken keeps a character from the
letter. -/
def isBlocked (s : Composing) (c : Char) : Bool :=
  s.marks.head?.any fun mark => combiningClass c ≤ combiningClass mark

/-- The letter with a character taken into it. -/
def taken? (s : Composing) (c : Char) : Option Char :=
  if s.isBlocked c then none else s.starter.bind (composed? · c)

/-- Adds a character. -/
def add (s : Composing) (c : Char) : Composing :=
  match s.taken? c with
  | some letter => { s with starter := some letter }
  | none =>
    if isStarter c then { finished := s.all, starter := some c }
    else { s with marks := c :: s.marks }

end Composing

/-- A text in parts, put together. -/
def composed (s : List Char) : List Char :=
  (s.foldl Composing.add {}).all.reverse

/-- The composed form of a text. -/
def normalized (s : List Char) : List Char :=
  composed (ordered (s.flatMap (decomposed compositionDepth)))

end FluxComposer.Unicode
