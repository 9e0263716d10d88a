import Pushdown.Symbol
import Pushdown.Text.Listing

namespace Pushdown

/-!
# Rules

A rule says what a nonterminal may be expanded to.
-/

/-- A nonterminal and the symbols it is expanded to, which may be none. -/
structure Rule where
  head : Nonterminal
  body : List Symbol
deriving Repr, DecidableEq, Ord, Inhabited

namespace Rule

def text
    (rule : Rule) :
    String :=
  rule.head.text ++ " -> " ++ Text.spaced (rule.body.map Symbol.text)

def detail
    (rule : Rule) :
    String :=
  "Rule(" ++ rule.head.detail ++ " -> " ++
    Text.spaced (rule.body.map Symbol.detail) ++ ")"

/-- Ascending order: by head, then by body, the first difference deciding. -/
def sort
    (rules : List Rule) :
    List Rule :=
  rules.mergeSort fun first second => (compare first second).isLE

end Rule

end Pushdown
