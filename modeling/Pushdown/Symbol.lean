import Pushdown.Text.Quoted

namespace Pushdown

/-!
# Terminals, nonterminals and symbols

Terminals are the symbols of words, nonterminals the left sides of rules.  Each is
known by its name alone.  Every kind of token has two written forms: `text` is
the plain one, `detail` the unambiguous one with quoted names.
-/

/-- A symbol of the input alphabet. -/
structure Terminal where
  name : String
deriving Repr, DecidableEq, Inhabited

namespace Terminal

/-- Terminals are ordered by name. -/
instance : Ord Terminal :=
  ⟨compareOn (·.name)⟩

instance : Std.TransOrd Terminal :=
  inferInstanceAs (Std.TransCmp (compareOn fun terminal : Terminal => terminal.name))

instance : Std.LawfulEqOrd Terminal where
  eq_of_compare := by
    intro first second same
    have names : first.name = second.name := Std.LawfulEqOrd.eq_of_compare same
    cases first
    cases second
    simpa using names

/-- Stands for reading nothing; no automaton may declare it. -/
def epsilon : Terminal :=
  ⟨"ε"⟩

/-- Whether reading this terminal reads nothing. -/
def isEpsilon
    (terminal : Terminal) :
    Bool :=
  terminal == epsilon

def text
    (terminal : Terminal) :
    String :=
  terminal.name

/-- The quoted name, marked as a terminal. -/
def detail
    (terminal : Terminal) :
    String :=
  "t" ++ Text.quoted terminal.name

@[simp]
theorem isEpsilon_iff
    {terminal : Terminal} :
    terminal.isEpsilon = true ↔ terminal = epsilon := by
  simp [isEpsilon]

end Terminal

/-- A symbol that rules expand. -/
structure Nonterminal where
  name : String
deriving Repr, DecidableEq, Inhabited

namespace Nonterminal

/-- Nonterminals are ordered by name. -/
instance : Ord Nonterminal :=
  ⟨compareOn (·.name)⟩

instance : Std.TransOrd Nonterminal :=
  inferInstanceAs (Std.TransCmp (compareOn fun nonterminal : Nonterminal => nonterminal.name))

instance : Std.LawfulEqOrd Nonterminal where
  eq_of_compare := by
    intro first second same
    have names : first.name = second.name := Std.LawfulEqOrd.eq_of_compare same
    cases first
    cases second
    simpa using names

def text
    (nonterminal : Nonterminal) :
    String :=
  nonterminal.name

/-- The quoted name, marked as a nonterminal. -/
def detail
    (nonterminal : Nonterminal) :
    String :=
  "v" ++ Text.quoted nonterminal.name

end Nonterminal

/-- A symbol of a sentential form. -/
inductive Symbol where
  | terminal (symbol : Terminal)
  | nonterminal (symbol : Nonterminal)
deriving Repr, DecidableEq, Ord, Inhabited

namespace Symbol

def text : Symbol → String
  | .terminal symbol =>
      symbol.text
  | .nonterminal symbol =>
      symbol.text

/-- The quoted name, marked by its kind. -/
def detail : Symbol → String
  | .terminal symbol =>
      symbol.detail
  | .nonterminal symbol =>
      symbol.detail

def terminal? : Symbol → Option Terminal
  | .terminal symbol =>
      some symbol
  | .nonterminal _ =>
      none

/-- Whether rules may expand the symbol. -/
def isNonterminal : Symbol → Bool
  | .terminal _ =>
      false
  | .nonterminal _ =>
      true

/-- A name among the given ones is a nonterminal, any other name a terminal. -/
def ofName
    (nonterminals : List String)
    (name : String) :
    Symbol :=
  if name ∈ nonterminals then .nonterminal ⟨name⟩ else .terminal ⟨name⟩

end Symbol

end Pushdown
