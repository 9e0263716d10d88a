import Pushdown.Automaton.Insertion
import Pushdown.Definition.Outline
import Pushdown.Definition.TransitionLine

namespace Pushdown

/-!
# Definitions

A definition is an automaton together with the grammar whose rules its
transitions refer to by number.  It is read in stages: first all directives, then
the two headers, the rules, the declaration of the automaton, and last the
transitions in the order of their lines.  The first fault found ends the reading.
-/

/-- An automaton and the grammar of its rules. -/
structure Definition where
  automaton : Automaton
  grammar : Grammar
deriving DecidableEq

namespace Outline

/-- A header that has to be there. -/
def require
    (header : Header) :
    Option Nat → Except DefinitionError Nat
  | some number => .ok number
  | none => .error (.faultyLine ⟨0, .missingHeader header⟩)

/-- The grammar of the rule lines. -/
def grammar
    (outline : Outline) :
    Except DefinitionError Grammar := do
  let rules ← (outline.ruleLines.mapM
    (Text.Numbered.read (Rule.read outline.nonterminals))).mapError .faultyLine
  return .ofRules (rules.map (·.content))

/-- The automaton without its transitions. -/
def declare
    (outline : Outline)
    (states start : Nat) :
    Except DefinitionError Automaton :=
  (Automaton.declare states start
    (outline.terminals.map Terminal.mk)
    (outline.nonterminals.map Nonterminal.mk)
    outline.acceptStates).mapError .undeclarable

/-- All that is declared before the first transition is read. -/
def frame
    (outline : Outline) :
    Except DefinitionError Definition := do
  let states ← require .states outline.stateCount?
  let start ← require .start outline.start?
  let grammar ← outline.grammar
  let automaton ← outline.declare states start
  return ⟨automaton, grammar⟩

end Outline

namespace Definition

/-- Reads the transition of a line and adds it. -/
def addWords
    (nonterminals : List String)
    (definition : Definition)
    (words : List String) :
    Except LineFault Definition := do
  let transition ← Transition.read nonterminals definition.grammar words
  match definition.automaton.addTransition transition with
  | .ok automaton => return { definition with automaton := automaton }
  | .error error => throw (.rejected error)

/-- Adds the transition of a line; a fault is reported with the number of the line. -/
def addLine
    (nonterminals : List String)
    (definition : Definition)
    (line : Text.Numbered (List String)) :
    Except DefinitionError Definition :=
  match definition.addWords nonterminals line.content with
  | .ok extended => .ok extended
  | .error fault => .error (.faultyLine ⟨line.line, fault⟩)

/-- Adds the transitions of an outline. -/
def ofOutline
    (outline : Outline) :
    Except DefinitionError Definition := do
  outline.transitionLines.foldlM (addLine outline.nonterminals) (← outline.frame)

def read
    (text : String) :
    Except DefinitionError Definition := do
  ofOutline (← (Outline.read text).mapError .faultyLine)

/-! ## The transitions that were added, for the log -/

/-- The transitions that `addLine` adds, up to the first line that is faulty. -/
def addedLines
    (nonterminals : List String)
    (definition : Definition) :
    List (Text.Numbered (List String)) → List Transition
  | [] => []
  | line :: rest =>
      match Transition.read nonterminals definition.grammar line.content,
          definition.addLine nonterminals line with
      | .ok transition, .ok extended => transition :: extended.addedLines nonterminals rest
      | _, _ => []

/-- The transitions that reading a text adds, those before an error included. -/
def added
    (text : String) :
    List Transition :=
  match Outline.read text with
  | .error _ => []
  | .ok outline =>
      match outline.frame with
      | .error _ => []
      | .ok definition => definition.addedLines outline.nonterminals outline.transitionLines

end Definition

end Pushdown
