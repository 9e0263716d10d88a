import Pushdown.Table.Basic

namespace Pushdown

/-!
# Transition tables as markdown

A table is written with one line for each transition, state by state.  Its last
line has no line feed after it, except that a table without transitions ends
with the one after the line of dashes.
-/

namespace Transition

def backQuoted
    (text : String) :
    String :=
  "`" ++ text ++ "`"

/-- The cells of the line of a transition. -/
def cells
    (transition : Transition) :
    List String :=
  [ toString transition.source,
    backQuoted transition.input.text,
    backQuoted (StackToken.listText transition.pattern),
    toString transition.target,
    backQuoted (StackToken.listText transition.replacement),
    ", ".intercalate (transition.rules.map fun rule => backQuoted rule.text) ]

def markdownLine
    (cells : List String) :
    String :=
  "| " ++ " | ".intercalate cells ++ " |"

end Transition

namespace Table

def columnTitles : List String :=
  ["from", "input", "stack top", "to", "replacement", "rules"]

def markdown
    (table : Table) :
    String :=
  Transition.markdownLine columnTitles ++ "\n" ++
    Transition.markdownLine (columnTitles.map fun _ => "-") ++ "\n" ++
    "\n".intercalate (table.transitions.map fun transition =>
      Transition.markdownLine transition.cells)

end Table

end Pushdown
