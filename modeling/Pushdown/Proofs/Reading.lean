import Mathlib.Data.List.TakeDrop
import Pushdown.Definition.Basic
import Pushdown.Proofs.Construction
import Pushdown.Proofs.Outlining

namespace Pushdown

/-!
# What it takes to read a definition

The words of a rule or a transition determine what is read from them, and what is
read determines the words up to the spelling of numbers.  A definition is read when
the parts of its outline can be read one by one and its transitions can be added.
-/

/-! ## Rules and transitions -/

namespace Symbol

/-- The kind of a symbol is the one that its name is read as. -/
def DeclaredIn
    (nonterminals : List String)
    (symbol : Symbol) :
    Prop :=
  ofName nonterminals symbol.text = symbol

@[simp]
theorem text_ofName
    (nonterminals : List String)
    (name : String) :
    (ofName nonterminals name).text = name := by
  unfold ofName
  split <;> rfl

end Symbol

namespace Rule

/-- The words of a rule. -/
def words
    (rule : Rule) :
    List String :=
  rule.head.text :: Separator.arrow.text :: rule.body.map Symbol.text

theorem read_eq_ok_iff
    {nonterminals words : List String}
    {rule : Rule} :
    read nonterminals words = .ok rule ↔
      words = rule.words ∧ ∀ symbol ∈ rule.body, symbol.DeclaredIn nonterminals := by
  unfold read
  constructor
  · intro isRead
    split at isRead
    · next head arrow body =>
        split at isRead
        · next isArrow =>
            cases isRead
            simp [Rule.words, isArrow, Function.comp_def, Nonterminal.text, Symbol.DeclaredIn]
        · contradiction
    · contradiction
  · rintro ⟨rfl, declared⟩
    have names : (rule.body.map Symbol.text).map (Symbol.ofName nonterminals) = rule.body := by
      rw [List.map_map]
      exact (List.map_congr_left declared).trans (List.map_id _)
    simp only [Rule.words, ↓reduceIte, names]
    rfl

end Rule

/-! ## Cuts -/

theorem cutAt?_nil
    (separator : String) :
    cutAt? separator [] = none := by
  simp [cutAt?, List.span_eq_takeWhile_dropWhile]

theorem cutAt?_cons
    (separator word : String)
    (rest : List String) :
    cutAt? separator (word :: rest) =
      if word = separator then
        some ([], rest)
      else
        (cutAt? separator rest).map fun (before, after) => (word :: before, after) := by
  simp only [cutAt?, List.span_eq_takeWhile_dropWhile]
  by_cases isSeparator : word = separator
  · simp [isSeparator]
  · have kept : (word != separator) = true := by simpa using isSeparator
    simp only [List.takeWhile_cons, List.dropWhile_cons, kept, ↓reduceIte, isSeparator]
    cases rest.dropWhile (· != separator) <;> rfl

/-- A list is cut at the first occurrence of the separator. -/
theorem cutAt?_eq_some_iff
    {separator : String}
    {words before after : List String} :
    cutAt? separator words = some (before, after) ↔
      words = before ++ separator :: after ∧ separator ∉ before := by
  induction words generalizing before with
  | nil => simp [cutAt?_nil]
  | cons word rest inductionHypothesis =>
      rw [cutAt?_cons]
      split
      · next isSeparator =>
          subst isSeparator
          cases before with
          | nil => simp
          | cons first others =>
              simp only [Option.some.injEq, Prod.mk.injEq, reduceCtorEq, false_and, false_iff,
                List.cons_append, List.cons.injEq, List.mem_cons, not_and, not_not]
              exact fun same => .inl same.1
      · next differs =>
          cases before with
          | nil => simp [differs]
          | cons first others =>
              simp only [Option.map_eq_some_iff, Prod.exists, Prod.mk.injEq, List.cons.injEq,
                List.cons_append, List.mem_cons, not_or]
              grind

/-- Nothing is cut without a separator. -/
theorem cutAt?_eq_none_iff
    {separator : String}
    {words : List String} :
    cutAt? separator words = none ↔ separator ∉ words := by
  induction words with
  | nil => simp [cutAt?_nil]
  | cons word rest inductionHypothesis =>
      rw [cutAt?_cons, List.mem_cons, not_or, ← inductionHypothesis]
      split
      · next isSeparator => simp [isSeparator]
      · next differs => simp [Ne.symm differs]

/-! ## Transition lines -/

namespace TransitionLine

/-- The words of a line, with or without a slash if there are no rules. -/
inductive WrittenAs
    (line : TransitionLine) :
    List String → Prop where
  | withRules :
      Separator.arrow.text ∉ line.pattern →
      "/" ∉ line.replacement →
      WrittenAs line
        (line.source :: line.input :: Separator.colon.text ::
          (line.pattern ++ Separator.arrow.text :: line.target :: Separator.colon.text ::
            (line.replacement ++ "/" :: line.rules)))
  | withoutRules :
      Separator.arrow.text ∉ line.pattern →
      "/" ∉ line.replacement →
      line.rules = [] →
      WrittenAs line
        (line.source :: line.input :: Separator.colon.text ::
          (line.pattern ++ Separator.arrow.text :: line.target :: Separator.colon.text ::
            line.replacement))

theorem cutColon_eq_ok_iff
    {words rest : List String}
    {word : String} :
    cutColon words = .ok (word, rest) ↔ words = word :: Separator.colon.text :: rest := by
  unfold cutColon
  split
  · split <;> simp_all
  · next short => simpa using fun equal => short _ _ _ equal

/-- The slash and the rules are cut off, if there is a slash. -/
theorem cutRules_eq_iff
    {words replacement rules : List String} :
    cutRules words = (replacement, rules) ↔
      "/" ∉ replacement ∧
        (words = replacement ++ "/" :: rules ∨ words = replacement ∧ rules = []) := by
  unfold cutRules
  constructor
  · cases cut : cutAt? "/" words with
    | none =>
        intro uncut
        cases uncut
        exact ⟨cutAt?_eq_none_iff.mp cut, .inr ⟨rfl, rfl⟩⟩
    | some parts =>
        intro isCut
        cases isCut
        obtain ⟨whole, absent⟩ := cutAt?_eq_some_iff.mp cut
        exact ⟨absent, .inl whole⟩
  · rintro ⟨absent, rfl | ⟨rfl, rfl⟩⟩
    · rw [cutAt?_eq_some_iff.mpr ⟨rfl, absent⟩, Option.getD_some]
    · rw [cutAt?_eq_none_iff.mpr absent, Option.getD_none]

theorem ofWords_eq_ok_iff
    {words : List String}
    {line : TransitionLine} :
    ofWords words = .ok line ↔ line.WrittenAs words := by
  constructor
  · intro told
    cases words with
    | nil => contradiction
    | cons source rest =>
        simp only [ofWords, Except.bind_eq_ok_iff, Prod.exists] at told
        obtain ⟨input, rest, firstColon, told⟩ := told
        obtain rfl := cutColon_eq_ok_iff.mp firstColon
        split at told
        · contradiction
        · next pattern rest cut =>
            obtain ⟨rfl, noArrow⟩ := cutAt?_eq_some_iff.mp cut
            simp only [Except.bind_eq_ok_iff, Except.pure_eq_ok_iff, Prod.exists] at told
            obtain ⟨target, rest, secondColon, rfl⟩ := told
            obtain rfl := cutColon_eq_ok_iff.mp secondColon
            generalize parted : cutRules rest = parts
            obtain ⟨replacement, rules⟩ := parts
            obtain ⟨noSlash, rfl | ⟨rfl, rfl⟩⟩ := cutRules_eq_iff.mp parted
            · exact .withRules noArrow noSlash
            · exact .withoutRules noArrow noSlash rfl
  · -- The parts are cut off one after the other, as they were put together.
    have assembled : ∀ {rest : List String},
        Separator.arrow.text ∉ line.pattern →
        cutRules rest = (line.replacement, line.rules) →
        ofWords
            (line.source :: line.input :: Separator.colon.text ::
              (line.pattern ++ Separator.arrow.text :: line.target ::
                Separator.colon.text :: rest)) =
          .ok line := by
      intro rest noArrow parted
      have cut := cutAt?_eq_some_iff.mpr
        ⟨Eq.refl (line.pattern ++ Separator.arrow.text :: line.target ::
          Separator.colon.text :: rest), noArrow⟩
      simp only [ofWords, cutColon, ↓reduceIte, bind, Except.bind, cut, parted]
      rfl
    intro written
    cases written with
    | withRules noArrow noSlash =>
        exact assembled noArrow (cutRules_eq_iff.mpr ⟨noSlash, .inl rfl⟩)
    | withoutRules noArrow noSlash noRules =>
        exact assembled noArrow (cutRules_eq_iff.mpr ⟨noSlash, .inr ⟨rfl, noRules⟩⟩)

/-- The states and rules of a transition are written as numbers. -/
structure Describes
    (nonterminals : List String)
    (grammar : Grammar)
    (line : TransitionLine)
    (transition : Transition) :
    Prop where
  source :
    Text.numeral? line.source = some transition.source
  input :
    Terminal.read line.input = transition.input
  pattern :
    List.Forall₂ (fun word token => StackToken.read nonterminals word = .ok token)
      line.pattern transition.pattern
  target :
    Text.numeral? line.target = some transition.target
  replacement :
    List.Forall₂ (fun word token => StackToken.read nonterminals word = .ok token)
      line.replacement transition.replacement
  rules :
    List.Forall₂
      (fun word rule => ∃ number,
        Text.numeral? word = some number ∧ grammar.rule? number = some rule)
      line.rules transition.rules

end TransitionLine

theorem Grammar.readRule_eq_ok_iff
    {grammar : Grammar}
    {word : String}
    {rule : Rule} :
    grammar.readRule word = .ok rule ↔
      ∃ number, Text.numeral? word = some number ∧ grammar.rule? number = some rule := by
  simp only [readRule, Except.bind_eq_ok_iff, readNumber_eq_ok_iff]
  refine exists_congr fun number => and_congr_right fun _ => ?_
  cases grammar.rule? number <;> simp [Except.pure_eq_ok_iff]

theorem TransitionLine.transition_eq_ok_iff
    {nonterminals : List String}
    {grammar : Grammar}
    {line : TransitionLine}
    {transition : Transition} :
    line.transition nonterminals grammar = .ok transition ↔
      line.Describes nonterminals grammar transition := by
  simp only [TransitionLine.transition, Except.bind_eq_ok_iff, Except.pure_eq_ok_iff,
    List.mapM_eq_ok_iff, Grammar.readRule_eq_ok_iff, readNumber_eq_ok_iff]
  constructor
  · rintro ⟨_, pattern, _, replacement, _, rules, _, source, _, target, rfl⟩
    exact ⟨source, rfl, pattern, target, replacement, rules⟩
  · rintro ⟨source, input, pattern, target, replacement, rules⟩
    exact ⟨_, pattern, _, replacement, _, rules, _, source, _, target, by rw [input]⟩

theorem Transition.read_eq_ok_iff
    {nonterminals words : List String}
    {grammar : Grammar}
    {transition : Transition} :
    Transition.read nonterminals grammar words = .ok transition ↔
      ∃ line : TransitionLine,
        line.WrittenAs words ∧ line.Describes nonterminals grammar transition := by
  simp only [Transition.read, Except.bind_eq_ok_iff, TransitionLine.ofWords_eq_ok_iff,
    TransitionLine.transition_eq_ok_iff]

/-! ## Definitions -/

namespace Outline

theorem require_eq_ok_iff
    {header : Header}
    {number? : Option Nat}
    {number : Nat} :
    require header number? = .ok number ↔ number? = some number := by
  cases number? <;> simp [require]

theorem grammar_eq_ok_iff
    {outline : Outline}
    {grammar : Grammar} :
    outline.grammar = .ok grammar ↔
      ∃ rules,
        List.Forall₂ (fun words rule => Rule.read outline.nonterminals words = .ok rule)
            (outline.ruleLines.map (·.content)) rules ∧
          grammar = .ofRules rules := by
  simp only [Outline.grammar, Except.bind_eq_ok_iff, Except.pure_eq_ok_iff,
    Except.mapError_eq_ok_iff, ← Text.Numbered.mapM_read_eq_ok_iff]
  constructor
  · rintro ⟨rules, reads, rfl⟩
    exact ⟨_, ⟨rules, reads, rfl⟩, rfl⟩
  · rintro ⟨_, ⟨rules, reads, rfl⟩, rfl⟩
    exact ⟨rules, reads, rfl⟩

end Outline

namespace Definition

theorem addLine_eq_ok_iff
    {nonterminals : List String}
    {definition extended : Definition}
    {line : Text.Numbered (List String)} :
    definition.addLine nonterminals line = .ok extended ↔
      ∃ transition,
        Transition.read nonterminals definition.grammar line.content = .ok transition ∧
          ∃ automaton,
            definition.automaton.addTransition transition = .ok automaton ∧
              { definition with automaton := automaton } = extended := by
  have addWords_iff :
      definition.addWords nonterminals line.content = .ok extended ↔
        ∃ transition,
          Transition.read nonterminals definition.grammar line.content = .ok transition ∧
            ∃ automaton,
              definition.automaton.addTransition transition = .ok automaton ∧
                { definition with automaton := automaton } = extended := by
    simp only [addWords, Except.bind_eq_ok_iff]
    refine exists_congr fun transition => and_congr_right fun _ => ?_
    cases definition.automaton.addTransition transition <;> simp [Except.pure_eq_ok_iff]
  rw [← addWords_iff, addLine]
  cases definition.addWords nonterminals line.content <;> simp

/-- Lines are added when their transitions can be read and added. -/
theorem foldlM_addLine_eq_ok_iff
    {nonterminals : List String}
    {definition extended : Definition}
    {lines : List (Text.Numbered (List String))} :
    lines.foldlM (addLine nonterminals) definition = .ok extended ↔
      ∃ transitions,
        List.Forall₂
            (fun words transition =>
              Transition.read nonterminals definition.grammar words = .ok transition)
            (lines.map (·.content)) transitions ∧
          definition.automaton.addAll transitions = .ok extended.automaton ∧
            extended.grammar = definition.grammar := by
  induction lines generalizing definition with
  | nil =>
      cases definition
      cases extended
      simp [Except.pure_eq_ok_iff, Automaton.addAll, eq_comm]
  | cons line rest inductionHypothesis =>
      simp only [List.foldlM_cons, Except.bind_eq_ok_iff, addLine_eq_ok_iff, inductionHypothesis,
        List.map_cons, List.forall₂_cons_left_iff]
      constructor
      · rintro ⟨_, ⟨transition, isRead, automaton, isAdded, rfl⟩, transitions, areRead, areAdded,
          same⟩
        refine ⟨_, ⟨transition, transitions, isRead, areRead, rfl⟩, ?_, same⟩
        rw [Automaton.addAll, isAdded]
        exact areAdded
      · rintro ⟨_, ⟨transition, transitions, isRead, areRead, rfl⟩, areAdded, same⟩
        rw [Automaton.addAll] at areAdded
        cases isAdded : definition.automaton.addTransition transition with
        | error fault => simp [isAdded] at areAdded
        | ok automaton =>
            rw [isAdded] at areAdded
            exact ⟨_, ⟨transition, isRead, automaton, isAdded, rfl⟩, transitions, areRead,
              areAdded, same⟩

/-- The rules and transitions of an outline, and the definition that they make up. -/
structure OutlinedBy
    (definition : Definition)
    (outline : Outline)
    (rules : List Rule)
    (transitions : List Transition) :
    Prop where
  readRules :
    List.Forall₂ (fun words rule => Rule.read outline.nonterminals words = .ok rule)
      (outline.ruleLines.map (·.content)) rules
  grammar :
    definition.grammar = .ofRules rules
  readTransitions :
    List.Forall₂
      (fun words transition =>
        Transition.read outline.nonterminals definition.grammar words = .ok transition)
      (outline.transitionLines.map (·.content)) transitions
  automaton :
    ∃ states start,
      outline.stateCount? = some states ∧
        outline.start? = some start ∧
        Automaton.assemble states start
            (outline.terminals.map Terminal.mk)
            (outline.nonterminals.map Nonterminal.mk)
            outline.acceptStates
            transitions =
          .ok definition.automaton

theorem ofOutline_eq_ok_iff
    {outline : Outline}
    {definition : Definition} :
    ofOutline outline = .ok definition ↔
      ∃ rules transitions, definition.OutlinedBy outline rules transitions := by
  simp only [ofOutline, Outline.frame, Except.bind_eq_ok_iff, Except.pure_eq_ok_iff,
    Outline.require_eq_ok_iff, Outline.grammar_eq_ok_iff, Outline.declare,
    Except.mapError_eq_ok_iff, foldlM_addLine_eq_ok_iff]
  constructor
  · rintro ⟨_, ⟨states, stateCount, start, isStart, _, ⟨rules, readRules, rfl⟩, declared,
      isDeclared, rfl⟩, transitions, readTransitions, areAdded, sameGrammar⟩
    exact ⟨rules, transitions, readRules, sameGrammar, sameGrammar ▸ readTransitions, states,
      start, stateCount, isStart, Automaton.assemble_eq_ok_iff.mpr ⟨declared, isDeclared, areAdded⟩⟩
  · rintro ⟨rules, transitions, readRules, sameGrammar, readTransitions, states, start,
      stateCount, isStart, assembled⟩
    obtain ⟨declared, isDeclared, areAdded⟩ := Automaton.assemble_eq_ok_iff.mp assembled
    exact ⟨_, ⟨states, stateCount, start, isStart, _, ⟨rules, readRules, rfl⟩, declared,
      isDeclared, rfl⟩, transitions, sameGrammar ▸ readTransitions, areAdded, sameGrammar⟩

theorem read_eq_ok_iff
    {text : String}
    {definition : Definition} :
    read text = .ok definition ↔
      ∃ outline,
        Outline.read text = .ok outline ∧
          ∃ rules transitions, definition.OutlinedBy outline rules transitions := by
  simp only [read, Except.bind_eq_ok_iff, Except.mapError_eq_ok_iff, ofOutline_eq_ok_iff]

/-- An automaton that is made of what stands in an outline is the one that is read. -/
theorem read_eq_ok_of_assemble
    {text : String}
    {outline : Outline}
    {states start : Nat}
    {rules : List Rule}
    {transitions : List Transition}
    {machine : Automaton}
    (isOutlined : Outline.read text = .ok outline)
    (stateCount : outline.stateCount? = some states)
    (isStart : outline.start? = some start)
    (readRules :
      (outline.ruleLines.map (·.content)).mapM (Rule.read outline.nonterminals) = .ok rules)
    (readTransitions :
      (outline.transitionLines.map (·.content)).mapM
          (Transition.read outline.nonterminals (.ofRules rules)) =
        .ok transitions)
    (assembled :
      Automaton.assemble states start
          (outline.terminals.map Terminal.mk)
          (outline.nonterminals.map Nonterminal.mk)
          outline.acceptStates
          transitions =
        .ok machine) :
    read text = .ok ⟨machine, .ofRules rules⟩ := by
  refine read_eq_ok_iff.mpr ⟨outline, isOutlined, rules, transitions, ?_⟩
  exact {
    readRules := List.mapM_eq_ok_iff.mp readRules
    grammar := rfl
    readTransitions := List.mapM_eq_ok_iff.mp readTransitions
    automaton := ⟨states, start, stateCount, isStart, assembled⟩
  }

end Definition

end Pushdown
