import Pushdown.Proofs.RuleNumbers
import Pushdown.Proofs.Writing

namespace Pushdown

/-!
# Definitions are read as they were written

An automaton and a grammar are written line by line: the declaration, the rules in their
order, and the transitions state by state.  What is read from the text is the same
automaton and the same grammar, provided that their names are plain ones.
-/

namespace Definition

section Written

variable
  (states start : Nat)
  (terminals : List Terminal)
  (nonterminals : List Nonterminal)
  (acceptStates : List Nat)
  (definition : Definition)

/-- The lines of the declaration, the rules and the transitions, state by state. -/
def lines :
    List String :=
  [ " ".intercalate ["states", toString states],
    " ".intercalate ["start", toString start],
    " ".intercalate ("accept" :: acceptStates.map toString),
    " ".intercalate ("terminals" :: terminals.map Terminal.text),
    " ".intercalate ("variables" :: nonterminals.map Nonterminal.text) ] ++
  (definition.grammar.rules.map ("rule " ++ ·.text) ++
    definition.automaton.table.transitions.map fun transition =>
      " ".intercalate ("trans" :: transition.words definition.grammar))

/-- The text that a definition is written as. -/
def text :
    String :=
  String.join
    ((lines states start terminals nonterminals acceptStates definition).map (· ++ "\n"))

/-- The directives on the lines. -/
def directives :
    List Directive :=
  [ .states states,
    .start start,
    .accept acceptStates,
    .terminals (terminals.map Terminal.text),
    .nonterminals (nonterminals.map Nonterminal.text) ] ++
  (definition.grammar.rules.map (.rule ·.words) ++
    definition.automaton.table.transitions.map fun transition =>
      .transition (transition.words definition.grammar))

end Written

/-- Names, rules and numbers that are read as they are written. -/
structure Writable
    (states : Nat)
    (terminals : List Terminal)
    (nonterminals : List Nonterminal)
    (grammar : Grammar) :
    Prop where
  fewStates :
    states < Text.numeralBound
  plainTerminals :
    ∀ terminal ∈ terminals, PlainName terminal.name
  plainNonterminals :
    ∀ nonterminal ∈ nonterminals, PlainName nonterminal.name
  apart :
    ∀ terminal ∈ terminals, terminal.name ∉ nonterminals.map Nonterminal.text
  fewRules :
    grammar.rules.length ≤ Text.numeralBound
  rules :
    ∀ rule ∈ grammar.rules, rule.Writable (nonterminals.map Nonterminal.text)

variable
  {states start : Nat}
  {terminals : List Terminal}
  {nonterminals : List Nonterminal}
  {acceptStates : List Nat}
  {transitions : List Transition}
  {machine : Automaton}
  {grammar : Grammar}

instance : Decidable (Writable states terminals nonterminals grammar) :=
  decidable_of_iff
    (states < Text.numeralBound ∧
      (∀ terminal ∈ terminals, PlainName terminal.name) ∧
      (∀ nonterminal ∈ nonterminals, PlainName nonterminal.name) ∧
      (∀ terminal ∈ terminals, terminal.name ∉ nonterminals.map Nonterminal.text) ∧
      grammar.rules.length ≤ Text.numeralBound ∧
      ∀ rule ∈ grammar.rules, rule.Writable (nonterminals.map Nonterminal.text))
    ⟨fun ⟨fewStates, plainTerminals, plainNonterminals, apart, fewRules, rules⟩ =>
        ⟨fewStates, plainTerminals, plainNonterminals, apart, fewRules, rules⟩,
      fun ⟨fewStates, plainTerminals, plainNonterminals, apart, fewRules, rules⟩ =>
        ⟨fewStates, plainTerminals, plainNonterminals, apart, fewRules, rules⟩⟩

/-- What an automaton declares can be written if its names can be. -/
theorem Writable.token
    (writable : Writable states terminals nonterminals grammar)
    (assembled :
      Automaton.assemble states start terminals nonterminals acceptStates transitions =
        .ok machine)
    {token : StackToken}
    (declared : machine.DeclaresToken token) :
    token.Writable (nonterminals.map Nonterminal.text) := by
  obtain ⟨sameCount, sameTerminals, sameNonterminals⟩ :=
    Automaton.declaration_of_assemble assembled
  have given : ∀ {symbol : Terminal}, symbol ∈ machine.terminals → symbol ∈ terminals := by
    intro symbol member
    rwa [sameTerminals, SortedSet.mem_ofList] at member
  cases token with
  | terminal symbol =>
      have member := given declared
      exact ⟨writable.plainTerminals symbol member, writable.apart symbol member⟩
  | nonterminal symbol =>
      have member : symbol ∈ nonterminals := by
        rwa [Automaton.DeclaresToken, sameNonterminals, SortedSet.mem_ofList] at declared
      exact ⟨writable.plainNonterminals symbol member, List.mem_map_of_mem member⟩
  | lookahead symbol => exact writable.plainTerminals symbol (given declared)
  | state tag =>
      cases tag with
      | id number =>
          have inside : number < states := sameCount ▸ declared
          exact inside.trans writable.fewStates
      | wildcard => trivial

/-- Its transitions can be written, too, if their rules are in the grammar. -/
theorem Writable.transition
    (writable : Writable states terminals nonterminals grammar)
    (assembled :
      Automaton.assemble states start terminals nonterminals acceptStates transitions =
        .ok machine)
    (labelled : ∀ transition ∈ transitions, ∀ rule ∈ transition.rules, rule ∈ grammar.rules)
    {transition : Transition}
    (inTable : transition ∈ machine.table.transitions) :
    transition.Writable (nonterminals.map Nonterminal.text) grammar := by
  obtain ⟨sameCount, sameTerminals, _⟩ := Automaton.declaration_of_assemble assembled
  obtain ⟨inRow, admitted⟩ :=
    (Automaton.Built.assemble assembled).wellFormed.mem_row_source inTable
  rw [Automaton.row_of_assemble assembled, List.mem_filter] at inRow
  have small : ∀ {state}, state < machine.stateCount → state < Text.numeralBound := by
    intro state inside
    rw [sameCount] at inside
    exact inside.trans writable.fewStates
  have input : transition.input = .epsilon ∨ PlainName transition.input.name := by
    refine admitted.input.imp_right fun declared => ?_
    rw [sameTerminals, SortedSet.mem_ofList] at declared
    exact writable.plainTerminals _ declared
  exact
    { source := small admitted.source
      input := input
      pattern := fun token member => writable.token assembled (admitted.pattern token member)
      target := small admitted.target
      replacement := fun token member =>
        writable.token assembled (admitted.replacement token member)
      rules := labelled transition inRow.1 }

/-- Every directive stands on its line. -/
theorem Writable.writtenOn
    (writable : Writable states terminals nonterminals grammar)
    (assembled :
      Automaton.assemble states start terminals nonterminals acceptStates transitions =
        .ok machine)
    (labelled : ∀ transition ∈ transitions, ∀ rule ∈ transition.rules, rule ∈ grammar.rules) :
    List.Forall₂ Directive.WrittenOn
      (lines states start terminals nonterminals acceptStates ⟨machine, grammar⟩)
      (directives states start terminals nonterminals acceptStates ⟨machine, grammar⟩) := by
  obtain ⟨fresh, declared, _⟩ := Automaton.assemble_eq_ok_iff.mp assembled
  obtain ⟨startInside, acceptInside, _⟩ := Automaton.declare_eq_ok_iff.mp declared
  have numbers : ∀ numbers : List Nat, ∀ word ∈ numbers.map toString, Text.IsWord word := by
    intro numbers
    rw [List.forall_mem_map]
    exact fun number _ => Text.isWord_toString number
  have terminalNames : ∀ word ∈ terminals.map Terminal.text, Text.IsWord word := by
    rw [List.forall_mem_map]
    exact fun terminal member => (writable.plainTerminals terminal member).isWord
  have nonterminalNames : ∀ word ∈ nonterminals.map Nonterminal.text, Text.IsWord word := by
    rw [List.forall_mem_map]
    exact fun nonterminal member => (writable.plainNonterminals nonterminal member).isWord
  have rules :
      List.Forall₂ Directive.WrittenOn (grammar.rules.map ("rule " ++ ·.text))
        (grammar.rules.map (.rule ·.words)) := by
    rw [List.forall₂_map_left_iff, List.forall₂_map_right_iff, List.forall₂_same]
    exact fun rule member => Outline.writtenOn_rule (writable.rules rule member)
  have transitions :
      List.Forall₂ Directive.WrittenOn
        (machine.table.transitions.map fun transition =>
          " ".intercalate ("trans" :: transition.words grammar))
        (machine.table.transitions.map fun transition =>
          .transition (transition.words grammar)) := by
    rw [List.forall₂_map_left_iff, List.forall₂_map_right_iff, List.forall₂_same]
    intro transition inTable
    have areWords := (writable.transition assembled labelled inTable).isWord_words
    exact Outline.writtenOn_intercalate (by decide) (by decide) areWords ⟨rfl, rfl⟩
  -- The five lines of the declaration come first, each with words of its own kind.
  refine .cons ?_ (.cons ?_ (.cons ?_ (.cons ?_ (.cons ?_ (List.rel_append rules transitions)))))
  · refine Outline.writtenOn_intercalate (by decide) (by decide) (numbers [states]) ⟨rfl, ?_⟩
    exact Text.numeral?_toString writable.fewStates
  · refine Outline.writtenOn_intercalate (by decide) (by decide) (numbers [start]) ⟨rfl, ?_⟩
    exact Text.numeral?_toString (startInside.trans writable.fewStates)
  · refine Outline.writtenOn_intercalate (by decide) (by decide) (numbers acceptStates) ⟨rfl, ?_⟩
    rw [List.forall₂_map_left_iff, List.forall₂_same]
    exact fun state member =>
      Text.numeral?_toString ((acceptInside state member).trans writable.fewStates)
  · exact Outline.writtenOn_intercalate (by decide) (by decide) terminalNames ⟨rfl, rfl⟩
  · exact Outline.writtenOn_intercalate (by decide) (by decide) nonterminalNames ⟨rfl, rfl⟩

/--
An automaton that was declared and extended with rules of a grammar, and the grammar,
are read from the text that they are written as.
-/
theorem read_text_of_assemble
    (assembled :
      Automaton.assemble states start terminals nonterminals acceptStates transitions =
        .ok machine)
    (labelled : ∀ transition ∈ transitions, ∀ rule ∈ transition.rules, rule ∈ grammar.rules)
    (writable : Writable states terminals nonterminals grammar) :
    read (text states start terminals nonterminals acceptStates ⟨machine, grammar⟩) =
      .ok ⟨machine, grammar⟩ := by
  obtain ⟨outline, isRead, same⟩ :=
    Outline.exists_read_eq_ok (writable.writtenOn assembled labelled)
  have nonterminalNames : outline.nonterminals = nonterminals.map Nonterminal.text := by
    simp [Outline.nonterminals, Outline.contents_eq, same, directives]
  have terminalNames : outline.terminals = terminals.map Terminal.text := by
    simp [Outline.terminals, Outline.contents_eq, same, directives]
  have accepting : outline.acceptStates = acceptStates := by
    simp [Outline.acceptStates, Outline.contents_eq, same, directives]
  have stateCount : outline.stateCount? = some states := by
    simp [Outline.stateCount?, Outline.contents_eq, same, directives]
  have isStart : outline.start? = some start := by
    simp [Outline.start?, Outline.contents_eq, same, directives]
  have ruleWords : outline.ruleLines.map (·.content) = grammar.rules.map Rule.words :=
    (outline.contents_eq _).trans (by simp [same, directives])
  have transitionWords :
      outline.transitionLines.map (·.content) =
        machine.table.transitions.map (·.words grammar) :=
    (outline.contents_eq _).trans (by simp [same, directives])
  refine read_eq_ok_iff.mpr ⟨outline, isRead, grammar.rules, machine.table.transitions, ?_⟩
  refine
    { readRules := ?_
      grammar := ?_
      readTransitions := ?_
      automaton := ⟨states, start, stateCount, isStart, ?_⟩ }
  · rw [ruleWords, nonterminalNames, List.forall₂_map_left_iff, List.forall₂_same]
    exact fun rule member => (writable.rules rule member).read_words
  · refine Grammar.ext_rules ?_
    rw [Grammar.rules_ofRules, List.eraseDups_eq_self grammar.distinct]
  · rw [transitionWords, nonterminalNames, List.forall₂_map_left_iff, List.forall₂_same]
    exact fun transition inTable =>
      (writable.transition assembled labelled inTable).read_words writable.fewRules
  · have sameTerminals : (terminals.map Terminal.text).map Terminal.mk = terminals := by
      simp [Function.comp_def, Terminal.text]
    have sameNonterminals :
        (nonterminals.map Nonterminal.text).map Nonterminal.mk = nonterminals := by
      simp [Function.comp_def, Nonterminal.text]
    rw [terminalNames, nonterminalNames, accepting, sameTerminals, sameNonterminals]
    exact Automaton.assemble_transitions assembled

/-- Rules over names that also mean something else: `:` is a terminal, and `ε` a nonterminal. -/
def awkwardGrammar : Grammar :=
  .ofRules [⟨⟨"S"⟩, [.terminal ⟨":"⟩, .nonterminal ⟨"ε"⟩]⟩, ⟨⟨"ε"⟩, []⟩]

/-- Transitions with tokens of all kinds, the last state first. -/
def awkwardTransitions : List Transition :=
  [ ⟨1, .epsilon, [.wildcard, .lookahead ⟨"a"⟩], 0, [], []⟩,
    ⟨0, ⟨":"⟩, [.terminal ⟨"a"⟩], 1, [.state (.id 0), .lookahead ⟨"a"⟩, .nonterminal ⟨"ε"⟩],
      [⟨⟨"ε"⟩, []⟩, ⟨⟨"S"⟩, [.terminal ⟨":"⟩, .nonterminal ⟨"ε"⟩]⟩]⟩ ]

/-- The states are written in ascending order, the rules by their numbers, and all is read again. -/
theorem read_text_awkward_names :
    ∃ machine,
      Automaton.assemble 2 0 [⟨":"⟩, ⟨"a"⟩] [⟨"S"⟩, ⟨"ε"⟩] [1] awkwardTransitions =
          .ok machine ∧
        lines 2 0 [⟨":"⟩, ⟨"a"⟩] [⟨"S"⟩, ⟨"ε"⟩] [1] ⟨machine, awkwardGrammar⟩ =
          [ "states 2", "start 0", "accept 1", "terminals : a", "variables S ε",
            "rule S -> : ε", "rule ε -> ",
            "trans 0 : : a -> 1 : #0 ?a ε / 1 0", "trans 1 ε : #* ?a -> 0 : /" ] ∧
        read (text 2 0 [⟨":"⟩, ⟨"a"⟩] [⟨"S"⟩, ⟨"ε"⟩] [1] ⟨machine, awkwardGrammar⟩) =
          .ok ⟨machine, awkwardGrammar⟩ := by
  have writable : Writable 2 [⟨":"⟩, ⟨"a"⟩] [⟨"S"⟩, ⟨"ε"⟩] awkwardGrammar := by decide
  have labelled :
      ∀ transition ∈ awkwardTransitions, ∀ rule ∈ transition.rules,
        rule ∈ awkwardGrammar.rules := by
    decide
  obtain ⟨machine, assembled, inOrder⟩ := Except.exists_eq_ok_of_any
    (Automaton.assemble 2 0 [⟨":"⟩, ⟨"a"⟩] [⟨"S"⟩, ⟨"ε"⟩] [1] awkwardTransitions)
    (fun machine => machine.table.transitions == awkwardTransitions.reverse)
    (by cbv)
  refine ⟨machine, assembled, ?_, read_text_of_assemble assembled labelled writable⟩
  rw [lines, beq_iff_eq.mp inOrder]
  rfl

end Definition

end Pushdown
