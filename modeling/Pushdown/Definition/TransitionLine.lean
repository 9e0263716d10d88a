import Pushdown.Definition.Fault
import Pushdown.Grammar.Basic

namespace Pushdown

/-!
# Lines of transitions and rules

A transition line has the words

```text
source input : pattern… -> target : replacement… / rules…
```

of which the slash and the rules may be left out.  Its parts are told apart
before any of them is read.  A rule line has the words `head -> body…`.
-/

/-- Reads a rule; the names of nonterminals are given. -/
def Rule.read
    (nonterminals : List String)
    (words : List String) :
    Except LineFault Rule :=
  match words with
  | head :: arrow :: body =>
      if arrow = Separator.arrow.text then
        .ok ⟨⟨head⟩, body.map (Symbol.ofName nonterminals)⟩
      else
        .error .noArrow
  | _ => .error .noArrow

/--
Reads a stack token.

A hash marks a state, and a question mark with a name after it a lookahead
marker; any other word is a nonterminal if it is declared as one, and a terminal
if not.
-/
def StackToken.read
    (nonterminals : List String)
    (word : String) :
    Except LineFault StackToken :=
  match word.toList with
  | ['#', '*'] =>
      .ok .wildcard
  | '#' :: number =>
      (readNumber (String.ofList number)).map fun number => .state (.id number)
  | '?' :: first :: rest =>
      .ok (.lookahead ⟨String.ofList (first :: rest)⟩)
  | _ =>
      if word ∈ nonterminals then
        .ok (.nonterminal ⟨word⟩)
      else
        .ok (.terminal ⟨word⟩)

/-- The two words for reading nothing. -/
def epsilonWords : List String :=
  [Terminal.epsilon.name, "eps"]

def Terminal.read
    (word : String) :
    Terminal :=
  if word ∈ epsilonWords then .epsilon else ⟨word⟩

def Grammar.readRule
    (grammar : Grammar)
    (word : String) :
    Except LineFault Rule := do
  let number ← readNumber word
  match grammar.rule? number with
  | some rule => return rule
  | none => throw (.unknownRule number)

/-- The words before and after the first occurrence of a separator. -/
def cutAt?
    (separator : String)
    (words : List String) :
    Option (List String × List String) :=
  match words.span (· != separator) with
  | (before, _ :: after) => some (before, after)
  | (_, []) => none

/-- The parts of a transition line. -/
structure TransitionLine where
  source : String
  input : String
  pattern : List String
  target : String
  replacement : List String
  rules : List String
deriving Repr, DecidableEq

namespace TransitionLine

/-- Splits a word and a colon off the front. -/
def cutColon
    (words : List String) :
    Except LineFault (String × List String) :=
  match words with
  | word :: colon :: rest =>
      if colon = Separator.colon.text then
        .ok (word, rest)
      else
        .error (.missingSeparator .colon)
  | _ => .error (.missingSeparator .colon)

/-- Splits the words after the second colon at the first slash. -/
def cutRules
    (words : List String) :
    List String × List String :=
  (cutAt? "/" words).getD (words, [])

/-- Tells the parts of a line apart. -/
def ofWords
    (words : List String) :
    Except LineFault TransitionLine := do
  match words with
  | source :: rest =>
      let (input, rest) ← cutColon rest
      match cutAt? Separator.arrow.text rest with
      | none => throw (.missingSeparator .arrow)
      | some (pattern, rest) =>
          let (target, rest) ← cutColon rest
          let (replacement, rules) := cutRules rest
          return ⟨source, input, pattern, target, replacement, rules⟩
  | [] => throw (.missingSeparator .colon)

/-- Reads the parts: the pattern, the replacement, the rules, and the two states. -/
def transition
    (nonterminals : List String)
    (grammar : Grammar)
    (line : TransitionLine) :
    Except LineFault Transition := do
  let pattern ← line.pattern.mapM (StackToken.read nonterminals)
  let replacement ← line.replacement.mapM (StackToken.read nonterminals)
  let rules ← line.rules.mapM grammar.readRule
  let source ← readNumber line.source
  let target ← readNumber line.target
  return ⟨source, .read line.input, pattern, target, replacement, rules⟩

end TransitionLine

def Transition.read
    (nonterminals : List String)
    (grammar : Grammar)
    (words : List String) :
    Except LineFault Transition := do
  let line ← TransitionLine.ofWords words
  line.transition nonterminals grammar

end Pushdown
