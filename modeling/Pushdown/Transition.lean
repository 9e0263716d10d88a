import Pushdown.Grammar.Rule
import Pushdown.StackToken

namespace Pushdown

/-!
# Transitions

A transition leads from a state to a state, reads a terminal or nothing, and
puts a replacement in the place of the tokens at the stack top that agree with
its pattern.  It carries the rules that are reduced by it.
-/

/-- Patterns and replacements begin with the token that is at the top of the stack. -/
structure Transition where
  source : Nat
  input : Terminal
  pattern : List StackToken
  target : Nat
  replacement : List StackToken
  /-- The rules reduced by this step, in the order of reduction. -/
  rules : List Rule
deriving Repr, DecidableEq, Inhabited

namespace Transition

/-- The plain form, without the rules. -/
def text
    (transition : Transition) :
    String :=
  "(" ++ toString transition.source ++
    ", " ++ transition.input.text ++
    ", " ++ StackToken.listText transition.pattern ++
    ") -> (" ++ toString transition.target ++
    ", " ++ StackToken.listText transition.replacement ++ ")"

def detail
    (transition : Transition) :
    String :=
  "Transition \x7b from: " ++ toString transition.source ++
    ", input: " ++ transition.input.detail ++
    ", pattern: " ++ StackToken.listDetail transition.pattern ++
    ", to: " ++ toString transition.target ++
    ", replacement: " ++ StackToken.listDetail transition.replacement ++
    ", rules: " ++ Text.enclosed "[" (transition.rules.map Rule.detail) "]" ++
    " \x7d"

end Transition

/-! ## Ambiguity -/

/-- Why two transitions of one state may not stand side by side. -/
inductive Ambiguity where
  /-- The transition that was there first reads nothing. -/
  | epsilonExists
  /-- The new transition reads nothing, and the first one reads a terminal. -/
  | shadowsInput
  /-- Both read the same terminal, and some stack has both patterns at its top. -/
  | sameInput
  /-- Both patterns are empty, and the transitions read the same. -/
  | emptyStackTop
deriving Repr, DecidableEq

namespace Ambiguity

def detail : Ambiguity → String
  | .epsilonExists => "EpsilonExists"
  | .shadowsInput => "ShadowsInput"
  | .sameInput => "SameInput"
  | .emptyStackTop => "EmptyStackTop"

def message : Ambiguity → String
  | .epsilonExists => "epsilon input transition already exists for this stack top"
  | .shadowsInput => "epsilon input transition would shadow an input transition"
  | .sameInput => "same input symbol for overlapping stack tops"
  | .emptyStackTop => "empty stack top transitions read the same input"

end Ambiguity

/-- Two patterns overlap when the tokens at equal depth agree, as far as both reach. -/
def StackToken.overlap : List StackToken → List StackToken → Bool
  | first :: rest, otherFirst :: otherRest =>
      first.agrees otherFirst && overlap rest otherRest
  | _, _ => true

namespace Transition

/--
How a new transition is ambiguous with an existing one of the same state.

An empty pattern never meets a pattern with tokens here: which of the two is
taken is decided by their precedence.
-/
def ambiguity?
    (existing added : Transition) :
    Option Ambiguity :=
  match existing.pattern, added.pattern with
  | [], [] =>
      if existing.input = added.input then some .emptyStackTop else none
  | _ :: _, _ :: _ =>
      if StackToken.overlap existing.pattern added.pattern then
        if existing.input.isEpsilon then
          some .epsilonExists
        else if added.input.isEpsilon then
          some .shadowsInput
        else if existing.input = added.input then
          some .sameInput
        else
          none
      else
        none
  | _, _ =>
      none

end Transition

end Pushdown
