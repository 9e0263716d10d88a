import Pushdown.Automaton.Basic

namespace Pushdown

/-!
# Adding transitions

A transition is checked before it is added: its states, its input, the tokens
of its pattern and then of its replacement, the absence of wildcards in the
replacement, its rules, and last the row it goes into.  The first fault found
is the one that is reported.
-/

namespace Automaton

/-- A state has to be one of the automaton. -/
def stateFault?
    (machine : Automaton)
    (state : Nat) :
    Option BuildError :=
  if state < machine.stateCount then none else some (.invalidState state)

def terminalFault?
    (machine : Automaton)
    (terminal : Terminal) :
    Option BuildError :=
  if terminal ∈ machine.terminals then none else some (.invalidSymbol (.terminal terminal))

def nonterminalFault?
    (machine : Automaton)
    (nonterminal : Nonterminal) :
    Option BuildError :=
  if nonterminal ∈ machine.nonterminals then
    none
  else
    some (.invalidSymbol (.nonterminal nonterminal))

/-- An input is declared, or reads nothing. -/
def inputFault?
    (machine : Automaton)
    (input : Terminal) :
    Option BuildError :=
  if input.isEpsilon then none else machine.terminalFault? input

/-- The names in a token have to be declared, and its state has to exist. -/
def tokenFault?
    (machine : Automaton) :
    StackToken → Option BuildError
  | .terminal symbol =>
      machine.terminalFault? symbol
  | .nonterminal symbol =>
      machine.nonterminalFault? symbol
  | .lookahead symbol =>
      machine.terminalFault? symbol
  | .state .wildcard =>
      none
  | .state (.id number) =>
      if number < machine.stateCount then
        none
      else
        some (.invalidSymbol (.state (.id number)))

def symbolFault?
    (machine : Automaton) :
    Symbol → Option BuildError
  | .terminal symbol =>
      machine.terminalFault? symbol
  | .nonterminal symbol =>
      machine.nonterminalFault? symbol

/-- The head of a rule and then its body have to be declared. -/
def ruleFault?
    (machine : Automaton)
    (rule : Rule) :
    Option BuildError :=
  (machine.nonterminalFault? rule.head).or (rule.body.findSome? machine.symbolFault?)

/-- Wildcards stand in patterns only. -/
def wildcardFault?
    (replacement : List StackToken) :
    Option BuildError :=
  (replacement.find? StackToken.isWildcard).map .invalidSymbol

/-- The first fault of a transition that does not come from the other transitions. -/
def declarationFault?
    (machine : Automaton)
    (transition : Transition) :
    Option BuildError :=
  (machine.stateFault? transition.source)
    |>.or (machine.stateFault? transition.target)
    |>.or (machine.inputFault? transition.input)
    |>.or (transition.pattern.findSome? machine.tokenFault?)
    |>.or (transition.replacement.findSome? machine.tokenFault?)
    |>.or (wildcardFault? transition.replacement)
    |>.or (transition.rules.findSome? machine.ruleFault?)

/-- Adds a transition at the end of its row. -/
def addTransition
    (machine : Automaton)
    (transition : Transition) :
    Except BuildError Automaton :=
  match machine.declarationFault? transition with
  | some fault => .error fault
  | none =>
      match machine.table.insert transition with
      | .error conflict => .error (.ambiguous transition.source conflict)
      | .ok table => .ok { machine with table := table }

end Automaton

end Pushdown
