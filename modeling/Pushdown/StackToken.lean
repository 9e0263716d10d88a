import Pushdown.Symbol
import Pushdown.Text.Listing

namespace Pushdown

/-!
# Stack tokens

Besides terminals and nonterminals a stack may hold the numbers of states and
lookahead markers.  A pattern may also hold the wildcard, which stands for any
state.
-/

/-- A state as it is written on the stack. -/
inductive StateTag where
  /-- The state with this number. -/
  | id (number : Nat)
  /-- Any state; meant for patterns only. -/
  | wildcard
deriving Repr, DecidableEq, Ord, Inhabited

namespace StateTag

/-- The number, or a star for the wildcard. -/
def text : StateTag → String
  | .id number =>
      "#" ++ toString number
  | .wildcard =>
      "#*"

/-- The tag with its kind spelled out. -/
def detail : StateTag → String
  | .id number =>
      "Id(" ++ toString number ++ ")"
  | .wildcard =>
      "Wildcard"

/-- Two tags agree when they are equal or one of them is the wildcard. -/
def agrees : StateTag → StateTag → Bool
  | .id first, .id second =>
      first == second
  | _, _ =>
      true

end StateTag

/-- What a stack or a pattern holds. -/
inductive StackToken where
  | terminal (symbol : Terminal)
  | nonterminal (symbol : Nonterminal)
  | state (tag : StateTag)
  /-- The next terminal of the input, seen but not yet read. -/
  | lookahead (symbol : Terminal)
deriving Repr, DecidableEq, Ord, Inhabited

namespace StackToken

/-- The token that stands for any state. -/
def wildcard : StackToken :=
  .state .wildcard

def isWildcard
    (token : StackToken) :
    Bool :=
  token == wildcard

/-- The plain form; a lookahead marker is told by its question mark. -/
def text : StackToken → String
  | .terminal symbol =>
      symbol.text
  | .nonterminal symbol =>
      symbol.text
  | .state tag =>
      tag.text
  | .lookahead symbol =>
      "?" ++ symbol.text

def detail : StackToken → String
  | .terminal symbol =>
      symbol.detail
  | .nonterminal symbol =>
      symbol.detail
  | .state tag =>
      tag.text
  | .lookahead symbol =>
      "?" ++ symbol.detail

/-- State tokens agree when their tags agree, all others when they are equal. -/
def agrees : StackToken → StackToken → Bool
  | .state first, .state second =>
      first.agrees second
  | first, second =>
      first == second

/-- The terminal or nonterminal a token is, if it is one of these. -/
def symbol? : StackToken → Option Symbol
  | .terminal symbol =>
      some (.terminal symbol)
  | .nonterminal symbol =>
      some (.nonterminal symbol)
  | .state _ =>
      none
  | .lookahead _ =>
      none

/-- Ascending order: terminals, nonterminals, states with the wildcard last, lookahead markers. -/
def sort
    (tokens : List StackToken) :
    List StackToken :=
  tokens.mergeSort fun first second => (compare first second).isLE

/-- A list of tokens in plain form; `ε` stands for the list without tokens. -/
def listText : List StackToken → String
  | [] =>
      "ε"
  | tokens =>
      Text.spaced (tokens.map text)

def listDetail
    (tokens : List StackToken) :
    String :=
  Text.enclosed "[" (tokens.map detail) "]"

end StackToken

end Pushdown
