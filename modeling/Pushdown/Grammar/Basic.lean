import Pushdown.Grammar.Rule
import Pushdown.SortedSet

namespace Pushdown

/-!
# Grammars

A grammar numbers its rules from zero in the order in which they were first
added.  A rule that is there already is not added again, so every rule has one
number.  The numbers are kept beside the list of the rules and change together
with it, so that nobody has to search for a rule.
-/

/-- Numbered rules, and the number that is kept for each of them. -/
structure Grammar where
  rules : List Rule
  /-- The number that is kept for a rule, if the grammar has it. -/
  indexOf? : Rule → Option Nat
  /-- The numbers that are kept are the places of the rules. -/
  agree :
    ∀ {rule : Rule} {number : Nat},
      indexOf? rule = some number ↔ rules[number]? = some rule

namespace Grammar

def empty :
    Grammar :=
  ⟨[], fun _ => none, by simp⟩

instance : Inhabited Grammar :=
  ⟨empty⟩

/-- What is kept for a rule is decided by the list. -/
theorem ext_rules
    {first second : Grammar}
    (same : first.rules = second.rules) :
    first = second := by
  have sameNumbers : first.indexOf? = second.indexOf? := by
    funext rule
    refine Option.ext fun number => ?_
    rw [first.agree, second.agree, same]
  cases first
  cases second
  simp_all

instance : DecidableEq Grammar :=
  fun first second =>
    decidable_of_iff (first.rules = second.rules) ⟨ext_rules, congrArg rules⟩

/-- A rule at two places would need two numbers. -/
theorem distinct
    (grammar : Grammar) :
    grammar.rules.Nodup := by
  refine List.pairwise_iff_getElem.mpr ?_
  intro first second firstInside secondInside before same
  have firstNumber := grammar.agree.mpr (List.getElem?_eq_getElem firstInside)
  have secondNumber := grammar.agree.mpr (List.getElem?_eq_getElem secondInside)
  rw [same, secondNumber, Option.some.injEq] at firstNumber
  omega

theorem lt_length_of_indexOf?
    {grammar : Grammar}
    {rule : Rule}
    {number : Nat}
    (known : grammar.indexOf? rule = some number) :
    number < grammar.rules.length :=
  (List.getElem?_eq_some_iff.mp (grammar.agree.mp known)).1

theorem indexOf?_eq_none_iff
    {grammar : Grammar}
    {rule : Rule} :
    grammar.indexOf? rule = none ↔ rule ∉ grammar.rules := by
  rw [Option.eq_none_iff_forall_ne_some, List.mem_iff_getElem?, not_exists]
  exact forall_congr' fun number => not_congr grammar.agree

/-- Puts a rule that is not there yet at the end, and keeps its number. -/
def append
    (grammar : Grammar)
    (rule : Rule)
    (unknown : grammar.indexOf? rule = none) :
    Grammar where
  rules :=
    grammar.rules ++ [rule]
  indexOf? other :=
    if other = rule then some grammar.rules.length else grammar.indexOf? other
  agree := by
    intro other number
    rw [List.getElem?_append]
    split
    · next isNew =>
        -- The new rule has no number among those of the earlier rules.
        have notBefore : grammar.rules[number]? ≠ some rule :=
          fun located => by simp [grammar.agree.mpr located] at unknown
        subst isNew
        grind
    · next isOther =>
        rw [grammar.agree]
        grind

/-- The entry of a rule, which is added at the end unless the grammar has it already. -/
def intern
    (grammar : Grammar)
    (rule : Rule) :
    Rule × Grammar :=
  match known : grammar.indexOf? rule with
  | some number =>
      have inside : number < grammar.rules.length := lt_length_of_indexOf? known
      (grammar.rules[number], grammar)
  | none =>
      (rule, grammar.append rule known)

/-- Adds a rule at the end, unless the grammar has it already. -/
def addRule
    (grammar : Grammar)
    (rule : Rule) :
    Grammar :=
  (grammar.intern rule).2

def addRules
    (grammar : Grammar)
    (rules : List Rule) :
    Grammar :=
  rules.foldl addRule grammar

/-- The grammar of a list of rules. -/
def ofRules
    (rules : List Rule) :
    Grammar :=
  empty.addRules rules

def rule?
    (grammar : Grammar)
    (number : Nat) :
    Option Rule :=
  grammar.rules[number]?

/-- The head of the first rule. -/
def start?
    (grammar : Grammar) :
    Option Nonterminal :=
  grammar.rules.head?.map (·.head)

def nonterminals
    (grammar : Grammar) :
    SortedSet Nonterminal :=
  .ofList (grammar.rules.map (·.head))

/-- The terminals in the bodies of the rules. -/
def terminals
    (grammar : Grammar) :
    SortedSet Terminal :=
  .ofList (grammar.rules.flatMap fun rule => rule.body.filterMap Symbol.terminal?)

/-- The entry is the rule itself. -/
theorem fst_intern
    (grammar : Grammar)
    (rule : Rule) :
    (grammar.intern rule).1 = rule := by
  unfold intern
  split
  · next number known =>
      exact (List.getElem?_eq_some_iff.mp (grammar.agree.mp known)).2
  · rfl

theorem rules_addRule
    (grammar : Grammar)
    (rule : Rule) :
    (grammar.addRule rule).rules =
      if rule ∈ grammar.rules then grammar.rules else grammar.rules ++ [rule] := by
  unfold addRule intern
  split
  · next number known =>
      rw [if_pos (List.mem_of_getElem? (grammar.agree.mp known))]
  · next unknown =>
      rw [if_neg (indexOf?_eq_none_iff.mp unknown)]
      rfl

end Grammar

end Pushdown
