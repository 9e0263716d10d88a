import Pushdown.Text.Split

namespace Pushdown.Text

/-!
# Numbered lines

Lines are counted from zero, blank ones included.  What is read from a line
keeps the number of the line, and so does a fault found in it.
-/

/-- Something that stands on a line of a text. -/
structure Numbered (α : Type) where
  line : Nat
  content : α
deriving Repr, DecidableEq

namespace Numbered

/-- Reads the content; a fault in it is reported with the line. -/
def read
    (reader : α → Except ε β)
    (item : Numbered α) :
    Except (Numbered ε) (Numbered β) :=
  match reader item.content with
  | .ok content => .ok ⟨item.line, content⟩
  | .error fault => .error ⟨item.line, fault⟩

end Numbered

/-- The lines of a text with their numbers. -/
def numberedLines
    (text : String) :
    List (Numbered (List Char)) :=
  (lines text.toList).zipIdx.map fun (content, line) => ⟨line, content⟩

/-- Whether a line holds nothing but blanks. -/
def isBlankLine
    (line : List Char) :
    Bool :=
  line.all isBlank

end Pushdown.Text
