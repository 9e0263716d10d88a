import Pushdown.Grammar.Basic
import Pushdown.Text.Numbered
import Pushdown.Text.Quoted

namespace Pushdown

/-!
# Grammars as text

Every line that is not blank reads `head -> body | body | …`.  The head is all
that stands before the first arrow, without the blanks around it.  A name is a
nonterminal when it is the head of some line, before or after.
-/

/-- What is wrong with a production line. -/
inductive ProductionFault where
  | noArrow
  | emptyHead
deriving Repr, DecidableEq

/-- A faulty production line and its number. -/
abbrev ProductionError :=
  Text.Numbered ProductionFault

namespace ProductionFault

def detail : ProductionFault → String
  | .noArrow => "NoArrow"
  | .emptyHead => "EmptyHead"

def message : ProductionFault → String
  | .noArrow => "No arrow in production line"
  | .emptyHead => "Production head is empty"

end ProductionFault

namespace ProductionError

def message
    (error : ProductionError) :
    String :=
  "Error parsing productions, line: " ++ toString error.line ++
    ", cause: " ++ error.content.detail ++ "."

def detail
    (error : ProductionError) :
    String :=
  "ParseProductionError \x7b line: " ++ toString error.line ++
    ", cause: " ++ error.content.detail ++ " \x7d"

end ProductionError

/-- A head and the words of each of its bodies. -/
structure ProductionLine where
  head : String
  bodies : List (List String)
deriving Repr, DecidableEq

namespace ProductionLine

def read
    (line : List Char) :
    Except ProductionFault ProductionLine :=
  match Text.cutAtArrow? line with
  | none => .error .noArrow
  | some (before, after) =>
      let head := Text.trim before
      if head.isEmpty then
        .error .emptyHead
      else
        .ok ⟨String.ofList head, (after.splitOn '|').map Text.asciiWords⟩

def rules
    (heads : List String)
    (line : ProductionLine) :
    List Rule :=
  line.bodies.map fun words => ⟨⟨line.head⟩, words.map (Symbol.ofName heads)⟩

end ProductionLine

namespace Grammar

/-- The lines of a text that are not blank. -/
def productionLines
    (text : String) :
    List (Text.Numbered (List Char)) :=
  (Text.numberedLines text).filter fun line => !Text.isBlankLine line.content

/-- Reads a grammar; the first faulty line is the error. -/
def read
    (text : String) :
    Except ProductionError Grammar := do
  let numbered ← (productionLines text).mapM (Text.Numbered.read ProductionLine.read)
  let lines := numbered.map (·.content)
  let heads := lines.map (·.head)
  return ofRules (lines.flatMap (ProductionLine.rules heads))

end Grammar

end Pushdown
