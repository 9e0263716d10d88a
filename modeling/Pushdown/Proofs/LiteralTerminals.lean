import Pushdown.Proofs.Reading
import Pushdown.Proofs.Reassembly

namespace Pushdown

/-!
# Transition lines that say what they mean

A terminal may have the name of a separator or be called `eps`, and then a transition
line can be taken for another one than the one it was written as.  What a line means
when all of its names are names of terminals is said without the reader, and then it is
said which lines are read with this meaning.
-/

/-! ## Stack tokens -/

/-- A name that is not marked as a state or a lookahead marker, nor a nonterminal, is a terminal. -/
theorem StackToken.read_eq_terminal
    {nonterminals : List String}
    {name : String}
    (notNonterminal : name ∉ nonterminals)
    (notState : name.toList.head? ≠ some '#')
    (notLookahead : name.toList.head? ≠ some '?') :
    read nonterminals name = .ok (.terminal ⟨name⟩) := by
  unfold read
  split <;> simp_all

theorem Terminal.read_eq
    {name : String}
    (notLong : name ≠ Terminal.epsilon.name)
    (notShort : name ≠ "eps") :
    Terminal.read name = ⟨name⟩ := by
  simp [Terminal.read, epsilonWords, notLong, notShort]

/-! ## Lines without rules -/

namespace TransitionLine

/-- The words of a line without a part for rules. -/
def wordsWithoutRules
    (line : TransitionLine) :
    List String :=
  line.source :: line.input :: Separator.colon.text ::
    (line.pattern ++ Separator.arrow.text :: line.target :: Separator.colon.text ::
      line.replacement)

/-- The input and the tokens of a line. -/
def names
    (line : TransitionLine) :
    List String :=
  line.input :: (line.pattern ++ line.replacement)

/-- The transition has all names of the line as terminals, in their places. -/
structure Literal
    (line : TransitionLine)
    (transition : Transition) :
    Prop where
  input :
    transition.input = ⟨line.input⟩
  pattern :
    transition.pattern = line.pattern.map fun name => .terminal ⟨name⟩
  replacement :
    transition.replacement = line.replacement.map fun name => .terminal ⟨name⟩

/-- No name of the line is read as something that separates or reads nothing. -/
structure Unambiguous
    (line : TransitionLine) :
    Prop where
  input :
    line.input ≠ "eps"
  pattern :
    Separator.arrow.text ∉ line.pattern
  replacement :
    "/" ∉ line.replacement

instance (line : TransitionLine) : Decidable line.Unambiguous :=
  decidable_of_iff
    (line.input ≠ "eps" ∧ Separator.arrow.text ∉ line.pattern ∧ "/" ∉ line.replacement)
    ⟨fun ⟨input, pattern, replacement⟩ => ⟨input, pattern, replacement⟩,
      fun ⟨input, pattern, replacement⟩ => ⟨input, pattern, replacement⟩⟩

variable
  {nonterminals : List String}
  {grammar : Grammar}
  {line : TransitionLine}
  {transition : Transition}

/-- What is cut at an earlier place than meant has fewer tokens than meant. -/
theorem Literal.unambiguous
    (literal : line.Literal transition)
    (isRead : Transition.read nonterminals grammar line.wordsWithoutRules = .ok transition) :
    line.Unambiguous := by
  obtain ⟨other, written, describes⟩ := Transition.read_eq_ok_iff.mp isRead
  -- The tokens are kept, so their numbers say where the line was cut.
  have patternLength : line.pattern.length = other.pattern.length := by
    rw [describes.pattern.length_eq, literal.pattern, List.length_map]
  have replacementLength : line.replacement.length = other.replacement.length := by
    rw [describes.replacement.length_eq, literal.replacement, List.length_map]
  have readInput : Terminal.read other.input = ⟨line.input⟩ := by
    rw [describes.input, literal.input]
  have notShort : other.input = line.input → line.input ≠ "eps" := by
    intro sameInput isShort
    rw [sameInput, isShort] at readInput
    exact absurd readInput (by decide)
  generalize same : line.wordsWithoutRules = words at written
  cases written with
  | withRules noArrow noSlash =>
      simp only [wordsWithoutRules, List.cons.injEq] at same
      obtain ⟨_, sameInput, _, cut⟩ := same
      obtain ⟨_, _, rest⟩ := List.append_cons_inj cut patternLength
      -- A part for rules would have to be a part of the replacement that was meant.
      have sameReplacement := List.tail_eq_of_cons_eq (List.tail_eq_of_cons_eq rest)
      rw [sameReplacement, List.length_append, List.length_cons] at replacementLength
      omega
  | withoutRules noArrow noSlash noRules =>
      simp only [wordsWithoutRules, List.cons.injEq] at same
      obtain ⟨_, sameInput, _, cut⟩ := same
      obtain ⟨samePattern, _, rest⟩ := List.append_cons_inj cut patternLength
      have sameReplacement := List.tail_eq_of_cons_eq (List.tail_eq_of_cons_eq rest)
      exact ⟨notShort sameInput.symm, samePattern ▸ noArrow, sameReplacement ▸ noSlash⟩

/-- The parts of a line without ambiguities are told apart as they were meant. -/
theorem Unambiguous.describes
    (unambiguous : line.Unambiguous)
    (isRead : Transition.read nonterminals grammar line.wordsWithoutRules = .ok transition) :
    { line with rules := [] }.Describes nonterminals grammar transition := by
  obtain ⟨other, written, describes⟩ := Transition.read_eq_ok_iff.mp isRead
  have meant : { line with rules := [] }.WrittenAs line.wordsWithoutRules :=
    .withoutRules unambiguous.pattern unambiguous.replacement rfl
  rw [← ofWords_eq_ok_iff] at written meant
  have same := Except.ok.inj (written.symm.trans meant)
  exact same ▸ describes

/-- A line is read literally exactly if none of its names separates or reads nothing. -/
theorem literal_iff_unambiguous
    (isRead : Transition.read nonterminals grammar line.wordsWithoutRules = .ok transition)
    (areTerminals :
      ∀ name ∈ line.names, StackToken.read nonterminals name = .ok (.terminal ⟨name⟩))
    (notEpsilon : line.input ≠ Terminal.epsilon.name) :
    line.Literal transition ↔ line.Unambiguous := by
  refine ⟨fun literal => literal.unambiguous isRead, ?_⟩
  intro unambiguous
  have describes := unambiguous.describes isRead
  simp only [names, List.forall_mem_cons, List.forall_mem_append] at areTerminals
  exact
    { input := describes.input.symm.trans (Terminal.read_eq notEpsilon unambiguous.input)
      pattern := List.eq_map_of_forall₂ describes.pattern areTerminals.2.1
      replacement := List.eq_map_of_forall₂ describes.replacement areTerminals.2.2 }

end TransitionLine

namespace Definition

/-- The transitions that are read from the transition lines, as the rows hold them. -/
structure Loads
    (definition : Definition)
    (text : String)
    (transitions : List Transition) :
    Prop where
  areRead :
    List.Forall₂
      (fun words transition =>
        Transition.read (Outline.wordsAfter "variables" text).flatten definition.grammar words =
          .ok transition)
      (Outline.wordsAfter "trans" text)
      transitions
  rows :
    ∀ state, definition.automaton.table.row state = transitions.filter (·.source = state)

/-- A name of a declared terminal that is neither one of a nonterminal nor marked. -/
structure PlainTerminal
    (text name : String) :
    Prop where
  declared :
    name ∈ (Outline.wordsAfter "terminals" text).flatten
  notNonterminal :
    name ∉ (Outline.wordsAfter "variables" text).flatten
  notState :
    name.toList.head? ≠ some '#'
  notLookahead :
    name.toList.head? ≠ some '?'

instance (text name : String) : Decidable (PlainTerminal text name) :=
  decidable_of_iff
    (name ∈ (Outline.wordsAfter "terminals" text).flatten ∧
      name ∉ (Outline.wordsAfter "variables" text).flatten ∧
        name.toList.head? ≠ some '#' ∧ name.toList.head? ≠ some '?')
    ⟨fun ⟨declared, notNonterminal, notState, notLookahead⟩ =>
        ⟨declared, notNonterminal, notState, notLookahead⟩,
      fun ⟨declared, notNonterminal, notState, notLookahead⟩ =>
        ⟨declared, notNonterminal, notState, notLookahead⟩⟩

variable
  {text : String}
  {definition : Definition}

theorem exists_loads
    (isRead : read text = .ok definition) :
    ∃ transitions, definition.Loads text transitions := by
  obtain ⟨outline, isOutlined, rules, transitions, outlined⟩ := read_eq_ok_iff.mp isRead
  obtain ⟨states, start, _, _, assembled⟩ := outlined.automaton
  refine ⟨transitions, ?_, Automaton.row_of_assemble assembled⟩
  rw [← Outline.transitionLines_eq isOutlined, ← Outline.nonterminals_eq isOutlined]
  exact outlined.readTransitions

/-- No declared terminal has the name of reading nothing. -/
theorem epsilon_not_mem_terminals
    (isRead : read text = .ok definition) :
    Terminal.epsilon.name ∉ (Outline.wordsAfter "terminals" text).flatten := by
  obtain ⟨outline, isOutlined, rules, transitions, outlined⟩ := read_eq_ok_iff.mp isRead
  obtain ⟨states, start, _, _, assembled⟩ := outlined.automaton
  obtain ⟨declared, isDeclared, _⟩ := Automaton.assemble_eq_ok_iff.mp assembled
  obtain ⟨_, _, notDeclared, _⟩ := Automaton.declare_eq_ok_iff.mp isDeclared
  rw [← Outline.terminals_eq isOutlined]
  intro member
  exact notDeclared (List.mem_map.mpr ⟨_, member, rfl⟩)

/--
A transition line without rules, of which all names are plain names of terminals, is read
literally exactly if its input is not `eps`, no token of its pattern is an arrow, and no
token of its replacement is a slash.
-/
theorem exists_loads_literally_iff
    (isRead : read text = .ok definition) :
    ∃ transitions,
      definition.Loads text transitions ∧
        List.Forall₂
          (fun words transition =>
            ∀ line : TransitionLine,
              words = line.wordsWithoutRules →
              (∀ name ∈ line.names, PlainTerminal text name) →
              (line.Literal transition ↔ line.Unambiguous) ∧
                (line.Unambiguous →
                  Text.numeral? line.source = some transition.source ∧
                    Text.numeral? line.target = some transition.target ∧
                    transition.rules = []))
          (Outline.wordsAfter "trans" text)
          transitions := by
  obtain ⟨transitions, loads⟩ := exists_loads isRead
  refine ⟨transitions, loads, loads.areRead.imp ?_⟩
  rintro words transition transitionIsRead line rfl plain
  have areTerminals : ∀ name ∈ line.names,
      StackToken.read (Outline.wordsAfter "variables" text).flatten name =
        .ok (.terminal ⟨name⟩) := by
    intro name isName
    obtain ⟨_, notNonterminal, notState, notLookahead⟩ := plain name isName
    exact StackToken.read_eq_terminal notNonterminal notState notLookahead
  have notEpsilon : line.input ≠ Terminal.epsilon.name := by
    intro isEpsilon
    have declared := (plain line.input List.mem_cons_self).declared
    exact epsilon_not_mem_terminals isRead (isEpsilon ▸ declared)
  refine ⟨TransitionLine.literal_iff_unambiguous transitionIsRead areTerminals notEpsilon, ?_⟩
  intro unambiguous
  have describes := unambiguous.describes transitionIsRead
  have noRules := describes.rules
  rw [List.forall₂_nil_left_iff] at noRules
  exact ⟨describes.source, describes.target, noRules⟩

/-- Terminals with the names of separators, and one that is called `eps`. -/
def separatorNames : String :=
  "states 3\nstart 0\naccept 2\nterminals -> / : eps 1 2 a\n" ++
    "trans 0 -> : / : eps -> 1 : -> : eps\ntrans 0 a : -> 1 : a -> 2 : a\n" ++
    "trans 1 eps : a -> 2 : a\ntrans 2 a : a -> 0 : a /\n"

/-- The directives of this definition. -/
def separatorNamesOutline : Outline :=
  ⟨[ ⟨0, .states 3⟩,
     ⟨1, .start 0⟩,
     ⟨2, .accept [2]⟩,
     ⟨3, .terminals ["->", "/", ":", "eps", "1", "2", "a"]⟩,
     ⟨4, .transition ["0", "->", ":", "/", ":", "eps", "->", "1", ":", "->", ":", "eps"]⟩,
     ⟨5, .transition ["0", "a", ":", "->", "1", ":", "a", "->", "2", ":", "a"]⟩,
     ⟨6, .transition ["1", "eps", ":", "a", "->", "2", ":", "a"]⟩,
     ⟨7, .transition ["2", "a", ":", "a", "->", "0", ":", "a", "/"]⟩ ]⟩

theorem outline_separatorNames :
    Outline.read separatorNames = .ok separatorNamesOutline := by
  decide +kernel

theorem exists_read_separatorNames :
    ∃ definition, read separatorNames = .ok definition := by
  let terminals : List Terminal := [⟨"->"⟩, ⟨"/"⟩, ⟨":"⟩, ⟨"eps"⟩, ⟨"1"⟩, ⟨"2"⟩, ⟨"a"⟩]
  let transitions : List Transition :=
    [ ⟨0, ⟨"->"⟩, [.terminal ⟨"/"⟩, .terminal ⟨":"⟩, .terminal ⟨"eps"⟩], 1,
        [.terminal ⟨"->"⟩, .terminal ⟨":"⟩, .terminal ⟨"eps"⟩], []⟩,
      ⟨0, ⟨"a"⟩, [], 1,
        [.terminal ⟨"a"⟩, .terminal ⟨"->"⟩, .terminal ⟨"2"⟩, .terminal ⟨":"⟩, .terminal ⟨"a"⟩],
        []⟩,
      ⟨1, .epsilon, [.terminal ⟨"a"⟩], 2, [.terminal ⟨"a"⟩], []⟩,
      ⟨2, ⟨"a"⟩, [.terminal ⟨"a"⟩], 0, [.terminal ⟨"a"⟩], []⟩ ]
  obtain ⟨machine, assembled, _⟩ := Except.exists_eq_ok_of_any
    (Automaton.assemble 3 0 terminals [] [2] transitions) (fun _ => true) (by cbv)
  exact ⟨⟨machine, .ofRules []⟩,
    read_eq_ok_of_assemble outline_separatorNames rfl rfl rfl (by decide) assembled⟩

theorem wordsAfter_trans_separatorNames :
    Outline.wordsAfter "trans" separatorNames =
      [ ["0", "->", ":", "/", ":", "eps", "->", "1", ":", "->", ":", "eps"],
        ["0", "a", ":", "->", "1", ":", "a", "->", "2", ":", "a"],
        ["1", "eps", ":", "a", "->", "2", ":", "a"],
        ["2", "a", ":", "a", "->", "0", ":", "a", "/"] ] :=
  (Outline.transitionLines_eq outline_separatorNames).symm

theorem plainTerminal_separatorNames
    {line : TransitionLine}
    (known : line.names ⊆ ["->", "/", ":", "eps", "1", "a"]) :
    ∀ name ∈ line.names, PlainTerminal separatorNames name := by
  have terminals :
      (Outline.wordsAfter "terminals" separatorNames).flatten =
        ["->", "/", ":", "eps", "1", "2", "a"] :=
    (Outline.terminals_eq outline_separatorNames).symm
  have nonterminals : (Outline.wordsAfter "variables" separatorNames).flatten = [] :=
    (Outline.nonterminals_eq outline_separatorNames).symm
  have unmarked :
      ∀ name ∈ ["->", "/", ":", "eps", "1", "a"],
        name ∈ ["->", "/", ":", "eps", "1", "2", "a"] ∧
          name.toList.head? ≠ some '#' ∧
          name.toList.head? ≠ some '?' := by
    decide
  intro name isName
  obtain ⟨declared, notState, notLookahead⟩ := unmarked name (known isName)
  exact ⟨terminals ▸ declared, nonterminals ▸ List.not_mem_nil, notState, notLookahead⟩

/-- Where they do not separate, such names are read as terminals; elsewhere they are not. -/
theorem exists_loads_literally_separatorNames :
    ∃ definition,
      read separatorNames = .ok definition ∧
        ∃ first second third fourth,
          definition.Loads separatorNames [first, second, third, fourth] ∧
            TransitionLine.Literal
              ⟨"0", "->", ["/", ":", "eps"], "1", ["->", ":", "eps"], []⟩ first ∧
            ¬ TransitionLine.Literal ⟨"0", "a", ["->", "1", ":", "a"], "2", ["a"], []⟩ second ∧
            ¬ TransitionLine.Literal ⟨"1", "eps", ["a"], "2", ["a"], []⟩ third ∧
            ¬ TransitionLine.Literal ⟨"2", "a", ["a"], "0", ["a", "/"], []⟩ fourth := by
  obtain ⟨definition, isRead⟩ := exists_read_separatorNames
  obtain ⟨transitions, loads, literally⟩ := exists_loads_literally_iff isRead
  rw [wordsAfter_trans_separatorNames] at literally
  simp only [List.forall₂_cons_left_iff, List.forall₂_nil_left_iff] at literally
  obtain ⟨first, _, firstLine, ⟨second, _, secondLine, ⟨third, _, thirdLine,
    ⟨fourth, _, fourthLine, rfl, rfl⟩, rfl⟩, rfl⟩, rfl⟩ := literally
  refine ⟨definition, isRead, first, second, third, fourth, loads, ?_, ?_, ?_, ?_⟩
  · exact (firstLine _ rfl (plainTerminal_separatorNames (by decide))).1.mpr (by decide)
  · exact mt (secondLine _ rfl (plainTerminal_separatorNames (by decide))).1.mp (by decide)
  · exact mt (thirdLine _ rfl (plainTerminal_separatorNames (by decide))).1.mp (by decide)
  · exact mt (fourthLine _ rfl (plainTerminal_separatorNames (by decide))).1.mp (by decide)

/-- Lines whose names are all plain names of terminals are not all read literally. -/
theorem not_loads_literally_separatorNames :
    ∃ definition,
      read separatorNames = .ok definition ∧
        ¬ ∃ transitions,
          definition.Loads separatorNames transitions ∧
            List.Forall₂
              (fun words transition =>
                ∀ line : TransitionLine,
                  words = line.wordsWithoutRules →
                  (∀ name ∈ line.names, PlainTerminal separatorNames name) →
                  line.Literal transition)
              (Outline.wordsAfter "trans" separatorNames)
              transitions := by
  obtain ⟨definition, isRead⟩ := exists_read_separatorNames
  refine ⟨definition, isRead, ?_⟩
  rintro ⟨transitions, loads, literally⟩
  have areRead := loads.areRead
  rw [wordsAfter_trans_separatorNames] at areRead literally
  obtain _ | ⟨_, _ | ⟨_, _ | ⟨thirdIsRead, _⟩⟩⟩ := areRead
  obtain _ | ⟨_, _ | ⟨_, _ | ⟨thirdLine, _⟩⟩⟩ := literally
  have literal :=
    thirdLine ⟨"1", "eps", ["a"], "2", ["a"], []⟩ rfl (plainTerminal_separatorNames (by decide))
  exact (literal.unambiguous thirdIsRead).input rfl

end Definition

end Pushdown
