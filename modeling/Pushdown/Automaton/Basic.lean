import Pushdown.Automaton.BuildError
import Pushdown.SortedSet

namespace Pushdown

/-!
# Automata

An automaton is declared with its states, terminals, nonterminals and accepting
states, and then gains transitions one by one.  The faults of a declaration are
looked for in this order: the start state, the accepting states from the
smallest up, and the terminals, of which none may stand for reading nothing.
-/

/-- A deterministic pushdown automaton. -/
structure Automaton where
  start : Nat
  terminals : SortedSet Terminal
  nonterminals : SortedSet Nonterminal
  acceptStates : SortedSet Nat
  table : Table
  /-- How many steps a run may record. -/
  stepLimit : Option Nat
deriving DecidableEq

namespace Automaton

def stateCount
    (machine : Automaton) :
    Nat :=
  machine.table.stateCount

/-- Whether a run that ends in the state is accepted. -/
def isAccepting
    (machine : Automaton)
    (state : Nat) :
    Bool :=
  decide (state ∈ machine.acceptStates)

/-- Declares an automaton without transitions. -/
def declare
    (states start : Nat)
    (terminals : List Terminal)
    (nonterminals : List Nonterminal)
    (acceptStates : List Nat) :
    Except BuildError Automaton :=
  let accepting : SortedSet Nat := .ofList acceptStates
  if states ≤ start then
    .error (.invalidState start)
  else
    match accepting.toList.find? (states ≤ ·) with
    | some state => .error (.invalidState state)
    | none =>
        if .epsilon ∈ terminals then
          .error (.invalidSymbol (.terminal .epsilon))
        else
          .ok
            { start := start
              terminals := .ofList terminals
              nonterminals := .ofList nonterminals
              acceptStates := accepting
              table := .empty states
              stepLimit := none }

/-- The same automaton with a limit on the steps of a run. -/
def withStepLimit
    (machine : Automaton)
    (limit : Nat) :
    Automaton :=
  { machine with stepLimit := some limit }

end Automaton

end Pushdown
