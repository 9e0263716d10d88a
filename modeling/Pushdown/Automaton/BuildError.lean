import Pushdown.Table.Basic

namespace Pushdown

/-!
# Why an automaton or a transition is refused

The errors of building an automaton: a state that does not exist, a token that
is not declared or not allowed where it stands, or a transition that would make
the automaton ambiguous.  The `message` of an error is in words, its `detail` names
its parts.
-/

/-- The causes for which an automaton or a transition is refused. -/
inductive BuildError where
  /-- The state is not one of the automaton. -/
  | invalidState (state : Nat)
  /-- The token is not declared, or not allowed where it stands. -/
  | invalidSymbol (token : StackToken)
  /-- The transition is ambiguous with one of the same state. -/
  | ambiguous (state : Nat) (conflict : Conflict)
deriving Repr, DecidableEq

namespace BuildError

def message : BuildError → String
  | .invalidState state =>
      "State " ++ toString state ++ " is not valid."
  | .invalidSymbol token =>
      "Symbol " ++ token.text ++ " is not valid."
  | .ambiguous state conflict =>
      "Ambiguous transition for state " ++ toString state ++
        ": " ++ conflict.cause.message ++
        ", existing: " ++ conflict.existing.text ++ "."

def detail : BuildError → String
  | .invalidState state =>
      "InvalidState(" ++ toString state ++ ")"
  | .invalidSymbol token =>
      "InvalidSymbol(" ++ Text.quoted token.text ++ ")"
  | .ambiguous state conflict =>
      "DeterminismViolation \x7b state: " ++ toString state ++
        ", cause: " ++ conflict.cause.detail ++
        ", existing: " ++ Text.quoted conflict.existing.text ++ " \x7d"

end BuildError

end Pushdown
