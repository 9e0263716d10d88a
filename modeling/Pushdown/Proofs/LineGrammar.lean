import Pushdown.Proofs.Reading

namespace Pushdown

/-!
# The grammar of transition lines

How a number and a stack token are spelled, and how the words of a transition line are put
together from them, is said here without the reader.  A line has at most one decomposition
into its parts.  The lines that spell a transition are handed on to the automaton as just
this transition; on any other line the automaton is not looked at.
-/

/-! ## Numerals and tokens -/

/-- Digits, the most significant first, with or without a plus sign in front. -/
structure Text.Spells
    (word : String)
    (number : Nat) :
    Prop where
  digits :
    ∃ digits : List Char,
      (word.toList = digits ∨ word.toList = '+' :: digits) ∧
        digits ≠ [] ∧
        (∀ digit ∈ digits, digit.isDigit = true) ∧
        Nat.ofDigitChars 10 digits 0 = number
  small :
    number < numeralBound

theorem Text.numeral?_eq_some_iff
    {word : String}
    {number : Nat} :
    numeral? word = some number ↔ Spells word number := by
  have value (digits : List Char) : digitsValue digits = Nat.ofDigitChars 10 digits 0 :=
    Nat.ofDigitChars_eq_foldl.symm
  simp only [numeral?, value]
  constructor
  · intro isRead
    split at isRead
    · next valid =>
        cases isRead
        obtain ⟨nonempty, areDigits, small⟩ := valid
        refine ⟨⟨dropPlus word.toList, ?_, nonempty, List.all_eq_true.mp areDigits, rfl⟩, small⟩
        unfold dropPlus
        split
        · next unsigned => exact .inr unsigned
        · exact .inl rfl
    · contradiction
  · rintro ⟨⟨digits, signed, nonempty, areDigits, rfl⟩, small⟩
    have unsigned : dropPlus word.toList = digits := by
      rcases signed with noSign | sign
      · rw [noSign]
        unfold dropPlus
        split
        · next rest => exact absurd (areDigits '+' List.mem_cons_self) (by decide)
        · rfl
      · rw [sign, dropPlus]
    rw [unsigned, if_pos ⟨nonempty, List.all_eq_true.mpr areDigits, small⟩]

namespace StackToken

/-- A word that is neither a state nor a lookahead marker. -/
structure Unmarked
    (word : String) :
    Prop where
  notState :
    ∀ rest, word ≠ "#" ++ rest
  notLookahead :
    ∀ name, name ≠ "" → word ≠ "?" ++ name

/-- The token that a word stands for, with the names of nonterminals given. -/
inductive Spells
    (nonterminals : List String) :
    String → StackToken → Prop where
  | wildcard :
      Spells nonterminals "#*" .wildcard
  | state
      {numeral : String}
      {number : Nat} :
      Text.Spells numeral number →
      Spells nonterminals ("#" ++ numeral) (.state (.id number))
  | lookahead
      {name : String} :
      name ≠ "" →
      Spells nonterminals ("?" ++ name) (.lookahead ⟨name⟩)
  | nonterminal
      {name : String} :
      Unmarked name →
      name ∈ nonterminals →
      Spells nonterminals name (.nonterminal ⟨name⟩)
  | terminal
      {name : String} :
      Unmarked name →
      name ∉ nonterminals →
      Spells nonterminals name (.terminal ⟨name⟩)

theorem unmarked_iff
    {word : String} :
    Unmarked word ↔
      (∀ rest, word.toList ≠ '#' :: rest) ∧
        ∀ first rest, word.toList ≠ '?' :: first :: rest := by
  constructor
  · rintro ⟨notState, notLookahead⟩
    refine ⟨?_, ?_⟩
    · intro rest marked
      apply notState (String.ofList rest)
      rw [← String.toList_inj, marked]
      simp
    · intro first rest marked
      apply notLookahead (String.ofList (first :: rest)) (by simp [← String.toList_inj])
      rw [← String.toList_inj, marked]
      simp
  · rintro ⟨notState, notLookahead⟩
    refine ⟨?_, ?_⟩
    · rintro rest rfl
      exact notState rest.toList (by simp)
    · rintro name nonempty rfl
      obtain ⟨first, rest, letters⟩ :=
        List.exists_cons_of_ne_nil (mt String.toList_eq_nil_iff.mp nonempty)
      exact notLookahead first rest (by simp [letters])

/-- A word that is not marked is the name of a nonterminal or of a terminal. -/
theorem read_of_unmarked
    {nonterminals : List String}
    {word : String}
    (unmarked : Unmarked word) :
    read nonterminals word =
      if word ∈ nonterminals then .ok (.nonterminal ⟨word⟩) else .ok (.terminal ⟨word⟩) := by
  obtain ⟨notState, notLookahead⟩ := unmarked_iff.mp unmarked
  unfold read
  split <;> simp_all

theorem read_eq_ok_iff
    {nonterminals : List String}
    {word : String}
    {token : StackToken} :
    read nonterminals word = .ok token ↔ Spells nonterminals word token := by
  constructor
  · intro isRead
    unfold read at isRead
    split at isRead
    · next letters =>
        cases isRead
        have isWildcard : word = "#*" := by simpa [← String.toList_inj] using letters
        exact isWildcard ▸ .wildcard
    · next digits _ letters =>
        obtain ⟨number, isNumber, rfl⟩ := Except.map_eq_ok_iff.mp isRead
        have isState : word = "#" ++ String.ofList digits := by
          simpa [← String.toList_inj] using letters
        rw [readNumber_eq_ok_iff, Text.numeral?_eq_some_iff] at isNumber
        exact isState ▸ .state isNumber
    · next first rest letters =>
        cases isRead
        have isLookahead : word = "?" ++ String.ofList (first :: rest) := by
          simpa [← String.toList_inj] using letters
        exact isLookahead ▸ .lookahead (by simp [← String.toList_inj])
    · next _ notState notLookahead =>
        have unmarked : Unmarked word := unmarked_iff.mpr ⟨notState, notLookahead⟩
        split at isRead
        · next declared =>
            cases isRead
            exact .nonterminal unmarked declared
        · next undeclared =>
            cases isRead
            exact .terminal unmarked undeclared
  · intro spelled
    cases spelled with
    | wildcard => rfl
    | @state numeral number isNumeral =>
        have isRead := Text.numeral?_eq_some_iff.mpr isNumeral
        have notStar : numeral.toList ≠ ['*'] := by
          intro isStar
          simp [Text.numeral?, Text.dropPlus, isStar, Char.isDigit] at isRead
        have letters : ("#" ++ numeral).toList = '#' :: numeral.toList := by simp
        simp only [read, letters, String.ofList_toList, readNumber_eq_ok_iff.mpr isRead]
        rfl
    | @lookahead name nonempty =>
        obtain ⟨first, rest, spelling⟩ :=
          List.exists_cons_of_ne_nil (mt String.toList_eq_nil_iff.mp nonempty)
        have letters : ("?" ++ name).toList = '?' :: first :: rest := by simp [spelling]
        simp only [read, letters]
        rw [← spelling, String.ofList_toList]
    | nonterminal unmarked declared => rw [read_of_unmarked unmarked, if_pos declared]
    | terminal unmarked undeclared => rw [read_of_unmarked unmarked, if_neg undeclared]

/-- What stands behind a hash is a star or spells a number. -/
def Legible
    (word : String) :
    Prop :=
  ∀ rest, word = "#" ++ rest → rest = "*" ∨ ∃ number, Text.Spells rest number

/-- Only a state can be misspelled. -/
theorem exists_spells_iff
    {nonterminals : List String}
    {word : String} :
    (∃ token, Spells nonterminals word token) ↔ Legible word := by
  have behindHash : ∀ {first second : String}, "#" ++ first = "#" ++ second → first = second := by
    intro first second same
    simpa [← String.toList_inj] using same
  constructor
  · rintro ⟨token, spelled⟩ rest marked
    cases spelled with
    | wildcard =>
        have isStar : "*" = rest := behindHash marked
        exact .inl isStar.symm
    | state isNumeral => exact .inr ⟨_, behindHash marked ▸ isNumeral⟩
    | lookahead _ => simp [← String.toList_inj] at marked
    | nonterminal unmarked _ => exact absurd marked (unmarked.notState rest)
    | terminal unmarked _ => exact absurd marked (unmarked.notState rest)
  · intro legible
    by_cases isState : ∃ rest, word = "#" ++ rest
    · obtain ⟨rest, rfl⟩ := isState
      rcases legible rest rfl with rfl | ⟨number, isNumeral⟩
      · exact ⟨_, .wildcard⟩
      · exact ⟨_, .state isNumeral⟩
    · by_cases isLookahead : ∃ name, name ≠ "" ∧ word = "?" ++ name
      · obtain ⟨name, nonempty, rfl⟩ := isLookahead
        exact ⟨_, .lookahead nonempty⟩
      · have unmarked : Unmarked word :=
          ⟨fun rest marked => isState ⟨rest, marked⟩,
            fun name nonempty marked => isLookahead ⟨name, nonempty, marked⟩⟩
        by_cases declared : word ∈ nonterminals
        · exact ⟨_, .nonterminal unmarked declared⟩
        · exact ⟨_, .terminal unmarked declared⟩

end StackToken

/-! ## Lines -/

namespace TransitionLine

/-- Every number of the line is spelled as one, and the numbers of rules are in use. -/
structure Legible
    (grammar : Grammar)
    (line : TransitionLine) :
    Prop where
  source :
    ∃ number, Text.Spells line.source number
  pattern :
    ∀ word ∈ line.pattern, StackToken.Legible word
  target :
    ∃ number, Text.Spells line.target number
  replacement :
    ∀ word ∈ line.replacement, StackToken.Legible word
  rules :
    ∀ word ∈ line.rules, ∃ number, Text.Spells word number ∧ number < grammar.rules.length

/-- The line spells the transition part by part. -/
structure Spells
    (nonterminals : List String)
    (grammar : Grammar)
    (line : TransitionLine)
    (transition : Transition) :
    Prop where
  source :
    Text.Spells line.source transition.source
  input :
    transition.input =
      if line.input = "ε" ∨ line.input = "eps" then .epsilon else ⟨line.input⟩
  pattern :
    List.Forall₂ (StackToken.Spells nonterminals) line.pattern transition.pattern
  target :
    Text.Spells line.target transition.target
  replacement :
    List.Forall₂ (StackToken.Spells nonterminals) line.replacement transition.replacement
  rules :
    List.Forall₂
      (fun word rule => ∃ number, Text.Spells word number ∧ grammar.rules[number]? = some rule)
      line.rules transition.rules

variable
  {nonterminals words : List String}
  {grammar : Grammar}
  {line other : TransitionLine}
  {transition : Transition}

theorem describes_iff_spells :
    line.Describes nonterminals grammar transition ↔
      line.Spells nonterminals grammar transition := by
  have input_iff :
      Terminal.read line.input = transition.input ↔
        transition.input =
          if line.input = "ε" ∨ line.input = "eps" then .epsilon else ⟨line.input⟩ := by
    simp only [Terminal.read, epsilonWords, Terminal.epsilon, List.mem_cons, List.not_mem_nil,
      or_false]
    exact eq_comm
  constructor
  · rintro ⟨source, input, pattern, target, replacement, rules⟩
    simp only [Text.numeral?_eq_some_iff] at source target rules
    exact ⟨source, input_iff.mp input,
      pattern.imp fun _ _ => StackToken.read_eq_ok_iff.mp, target,
      replacement.imp fun _ _ => StackToken.read_eq_ok_iff.mp, rules⟩
  · rintro ⟨source, input, pattern, target, replacement, rules⟩
    simp only [← Text.numeral?_eq_some_iff] at source target rules
    exact ⟨source, input_iff.mpr input,
      pattern.imp fun _ _ => StackToken.read_eq_ok_iff.mpr, target,
      replacement.imp fun _ _ => StackToken.read_eq_ok_iff.mpr, rules⟩

/-- The lines that spell a transition are the legible ones. -/
theorem exists_spells_iff
    (nonterminals : List String) :
    (∃ transition, line.Spells nonterminals grammar transition) ↔ line.Legible grammar := by
  have tokens_iff (words : List String) :
      (∃ tokens, List.Forall₂ (StackToken.Spells nonterminals) words tokens) ↔
        ∀ word ∈ words, StackToken.Legible word := by
    simp only [List.exists_forall₂_iff, StackToken.exists_spells_iff]
  have rules_iff (words : List String) :
      (∃ rules,
          List.Forall₂
            (fun word rule => ∃ number,
              Text.Spells word number ∧ grammar.rules[number]? = some rule)
            words rules) ↔
        ∀ word ∈ words, ∃ number, Text.Spells word number ∧ number < grammar.rules.length := by
    rw [List.exists_forall₂_iff]
    refine forall₂_congr fun word _ => ?_
    rw [exists_comm]
    simp [List.getElem?_eq_some_iff]
  constructor
  · rintro ⟨transition, source, _, pattern, target, replacement, rules⟩
    exact
      { source := ⟨_, source⟩
        pattern := (tokens_iff line.pattern).mp ⟨_, pattern⟩
        target := ⟨_, target⟩
        replacement := (tokens_iff line.replacement).mp ⟨_, replacement⟩
        rules := (rules_iff line.rules).mp ⟨_, rules⟩ }
  · rintro ⟨⟨source, isSource⟩, pattern, ⟨target, isTarget⟩, replacement, rules⟩
    obtain ⟨patternTokens, isPattern⟩ := (tokens_iff line.pattern).mpr pattern
    obtain ⟨replacementTokens, isReplacement⟩ := (tokens_iff line.replacement).mpr replacement
    obtain ⟨labels, areLabels⟩ := (rules_iff line.rules).mpr rules
    exact ⟨⟨source, _, patternTokens, target, replacementTokens, labels⟩,
      isSource, rfl, isPattern, isTarget, isReplacement, areLabels⟩

/-- A line is put together from its parts in one way only. -/
theorem WrittenAs.unique
    (written : line.WrittenAs words)
    (otherWritten : other.WrittenAs words) :
    line = other := by
  rw [← ofWords_eq_ok_iff] at written otherWritten
  exact Except.ok.inj (written.symm.trans otherWritten)

/-- The parts of a line spell one transition at most. -/
theorem Spells.unique
    {second : Transition}
    (spelled : line.Spells nonterminals grammar transition)
    (otherSpelled : line.Spells nonterminals grammar second) :
    transition = second := by
  rw [← describes_iff_spells, ← transition_eq_ok_iff] at spelled otherSpelled
  exact Except.ok.inj (spelled.symm.trans otherSpelled)

/-! ## Faulty lines -/

/-- Words that make up no line lack a separator. -/
theorem missingSeparator_of_ofWords
    {fault : LineFault}
    (failed : ofWords words = .error fault) :
    ∃ separator, fault = .missingSeparator separator := by
  have ofColon : ∀ {rest : List String},
      cutColon rest = .error fault → fault = .missingSeparator .colon := by
    intro rest noColon
    unfold cutColon at noColon
    split at noColon
    · split at noColon <;> simp_all
    · simp_all
  cases words with
  | nil => exact ⟨.colon, (Except.error.inj failed).symm⟩
  | cons source rest =>
      simp only [ofWords, Except.bind_eq_error_iff] at failed
      rcases failed with noColon | ⟨⟨input, rest⟩, _, failed⟩
      · exact ⟨.colon, ofColon noColon⟩
      · split at failed
        · exact ⟨.arrow, (Except.error.inj failed).symm⟩
        · rw [Except.bind_eq_error_iff] at failed
          rcases failed with noColon | ⟨_, _, isPure⟩
          · exact ⟨.colon, ofColon noColon⟩
          · cases isPure

end TransitionLine

/-- A word does not spell a number, or the number is not one of a rule. -/
inductive LineFault.IsNumberFault : LineFault → Prop where
  | invalidNumber
      (text : String) :
      IsNumberFault (.invalidNumber text)
  | unknownRule
      (number : Nat) :
      IsNumberFault (.unknownRule number)

theorem readNumber_isNumberFault
    {word : String}
    {fault : LineFault}
    (failed : readNumber word = .error fault) :
    fault.IsNumberFault := by
  unfold readNumber at failed
  split at failed
  · cases failed
  · cases failed
    exact .invalidNumber word

theorem StackToken.read_isNumberFault
    {nonterminals : List String}
    {word : String}
    {fault : LineFault}
    (failed : read nonterminals word = .error fault) :
    fault.IsNumberFault := by
  unfold read at failed
  split at failed
  · cases failed
  · next digits _ _ =>
      cases isRead : readNumber (String.ofList digits) with
      | ok number => simp [isRead, Except.map] at failed
      | error other =>
          rw [isRead] at failed
          cases failed
          exact readNumber_isNumberFault isRead
  · cases failed
  · split at failed <;> cases failed

theorem Grammar.readRule_isNumberFault
    {grammar : Grammar}
    {word : String}
    {fault : LineFault}
    (failed : grammar.readRule word = .error fault) :
    fault.IsNumberFault := by
  rw [readRule, Except.bind_eq_error_iff] at failed
  rcases failed with notNumber | ⟨number, _, failed⟩
  · exact readNumber_isNumberFault notNumber
  · split at failed
    · cases failed
    · cases failed
      exact .unknownRule number

theorem TransitionLine.transition_isNumberFault
    {nonterminals : List String}
    {grammar : Grammar}
    {line : TransitionLine}
    {fault : LineFault}
    (failed : line.transition nonterminals grammar = .error fault) :
    fault.IsNumberFault := by
  -- The parts are read one after the other, and what fails is the reading of one word.
  have ofTokens : ∀ {words : List String},
      words.mapM (StackToken.read nonterminals) = .error fault → fault.IsNumberFault := by
    intro words failed
    obtain ⟨_, _, isFaulty⟩ := List.exists_eq_error_of_mapM failed
    exact StackToken.read_isNumberFault isFaulty
  simp only [TransitionLine.transition, Except.bind_eq_error_iff] at failed
  rcases failed with pattern | ⟨_, _, replacement | ⟨_, _, rules | ⟨_, _, source |
    ⟨_, _, target | ⟨_, _, isPure⟩⟩⟩⟩⟩
  · exact ofTokens pattern
  · exact ofTokens replacement
  · obtain ⟨_, _, isFaulty⟩ := List.exists_eq_error_of_mapM rules
    exact Grammar.readRule_isNumberFault isFaulty
  · exact readNumber_isNumberFault source
  · exact readNumber_isNumberFault target
  · cases isPure

namespace Definition

variable
  {nonterminals : List String}
  {definition : Definition}
  {line : Text.Numbered (List String)}

/-- What the automaton says to a transition is said with the number of its line. -/
theorem addLine_of_read
    {transition : Transition}
    (isRead : Transition.read nonterminals definition.grammar line.content = .ok transition) :
    definition.addLine nonterminals line =
      ((definition.automaton.addTransition transition).map
          fun automaton => { definition with automaton := automaton }).mapError
        fun error => .faultyLine ⟨line.line, .rejected error⟩ := by
  unfold addLine addWords
  cases added : definition.automaton.addTransition transition <;>
    simp only [isRead, bind, Except.bind, added] <;> rfl

theorem addLine_of_unreadable
    {fault : LineFault}
    (failed : Transition.read nonterminals definition.grammar line.content = .error fault) :
    definition.addLine nonterminals line = .error (.faultyLine ⟨line.line, fault⟩) := by
  unfold addLine addWords
  rw [failed]
  rfl

/-- The line is faulty, whatever the automaton that it should be added to. -/
def Refuses
    (nonterminals : List String)
    (definition : Definition)
    (line : Text.Numbered (List String))
    (fault : LineFault) :
    Prop :=
  ∀ automaton,
    { definition with automaton := automaton }.addLine nonterminals line =
      .error (.faultyLine ⟨line.line, fault⟩)

/--
A line gets as far as the automaton exactly if it has a legible decomposition into its
parts.  There is at most one, and what the automaton is asked to add is the one transition
that its parts spell.  Of all other lines those without any decomposition lack a
separator, and the rest have a number that is none or not one of a rule; these faults have
nothing to do with the automaton.
-/
theorem addLine_reaches_automaton_iff
    (nonterminals : List String)
    (definition : Definition)
    (line : Text.Numbered (List String)) :
    ((∃ transition,
          Transition.read nonterminals definition.grammar line.content = .ok transition) ↔
        ∃ parts : TransitionLine,
          parts.WrittenAs line.content ∧ parts.Legible definition.grammar) ∧
      (∀ parts other : TransitionLine,
        parts.WrittenAs line.content → other.WrittenAs line.content → parts = other) ∧
      (∀ parts : TransitionLine,
        parts.WrittenAs line.content →
        parts.Legible definition.grammar →
        ∃ transition,
          (∀ other,
            parts.Spells nonterminals definition.grammar other ↔ other = transition) ∧
          Transition.read nonterminals definition.grammar line.content = .ok transition ∧
          definition.addLine nonterminals line =
            ((definition.automaton.addTransition transition).map
                fun automaton => { definition with automaton := automaton }).mapError
              fun error => .faultyLine ⟨line.line, .rejected error⟩) ∧
      ((¬ ∃ parts : TransitionLine, parts.WrittenAs line.content) →
        ∃ separator, Refuses nonterminals definition line (.missingSeparator separator)) ∧
      ∀ parts : TransitionLine,
        parts.WrittenAs line.content →
        ¬ parts.Legible definition.grammar →
        ∃ fault, fault.IsNumberFault ∧ Refuses nonterminals definition line fault := by
  have read_iff (transition : Transition) :
      Transition.read nonterminals definition.grammar line.content = .ok transition ↔
        ∃ parts : TransitionLine,
          parts.WrittenAs line.content ∧
            parts.Spells nonterminals definition.grammar transition := by
    simp only [Transition.read_eq_ok_iff, TransitionLine.describes_iff_spells]
  refine ⟨?_, fun _ _ written otherWritten => written.unique otherWritten, ?_, ?_, ?_⟩
  · simp only [read_iff, ← TransitionLine.exists_spells_iff nonterminals]
    constructor
    · rintro ⟨transition, parts, written, spelled⟩
      exact ⟨parts, written, transition, spelled⟩
    · rintro ⟨parts, written, transition, spelled⟩
      exact ⟨transition, parts, written, spelled⟩
  · intro parts written legible
    obtain ⟨transition, spelled⟩ := (TransitionLine.exists_spells_iff nonterminals).mpr legible
    have isRead := (read_iff transition).mpr ⟨parts, written, spelled⟩
    refine ⟨transition, ?_, isRead, addLine_of_read isRead⟩
    intro other
    exact ⟨fun otherSpelled => otherSpelled.unique spelled, fun same => same ▸ spelled⟩
  · intro undivided
    cases divided : TransitionLine.ofWords line.content with
    | ok parts => exact absurd ⟨parts, TransitionLine.ofWords_eq_ok_iff.mp divided⟩ undivided
    | error fault =>
        obtain ⟨separator, rfl⟩ := TransitionLine.missingSeparator_of_ofWords divided
        refine ⟨separator, fun automaton => addLine_of_unreadable ?_⟩
        rw [Transition.read, divided]
        rfl
  · intro parts written illegible
    have divided := TransitionLine.ofWords_eq_ok_iff.mpr written
    cases isRead : parts.transition nonterminals definition.grammar with
    | ok transition =>
        have spelled := TransitionLine.describes_iff_spells.mp
          (TransitionLine.transition_eq_ok_iff.mp isRead)
        exact absurd
          ((TransitionLine.exists_spells_iff nonterminals).mp ⟨transition, spelled⟩) illegible
    | error fault =>
        refine ⟨fault, TransitionLine.transition_isNumberFault isRead,
          fun automaton => addLine_of_unreadable ?_⟩
        rw [Transition.read, divided]
        exact isRead

/-- Separators that stand for symbols, a signed number, and lines that fail in each of two ways. -/
theorem addLine_reaches_automaton_crowded :
    ∃ machine extended,
      Automaton.assemble 8 0 [⟨":"⟩, ⟨"/"⟩, ⟨"->"⟩, ⟨"$"⟩] [⟨"S"⟩] [] [] = .ok machine ∧
        (Definition.mk machine (.ofRules [⟨⟨"S"⟩, []⟩])).addLine ["S"]
            ⟨4, ["0", ":", ":", ":", "/", "S", "#*", "->", "+01", ":", "->", "?$", "#7", "/", "0"]⟩ =
          .ok ⟨extended, .ofRules [⟨⟨"S"⟩, []⟩]⟩ ∧
        extended.table.row 0 =
          [ ⟨0, ⟨":"⟩, [.terminal ⟨":"⟩, .terminal ⟨"/"⟩, .nonterminal ⟨"S"⟩, .wildcard],
              1, [.terminal ⟨"->"⟩, .lookahead ⟨"$"⟩, .state (.id 7)], [⟨⟨"S"⟩, []⟩]⟩ ] ∧
        (∃ separator,
          Refuses ["S"] ⟨machine, .ofRules [⟨⟨"S"⟩, []⟩]⟩ ⟨5, ["0", ":", "->", "1", ":"]⟩
            (.missingSeparator separator)) ∧
        ∃ fault, fault.IsNumberFault ∧
          Refuses ["S"] ⟨machine, .ofRules [⟨⟨"S"⟩, []⟩]⟩
            ⟨6, ["0", "eps", ":", "->", "1", ":", "/", "1"]⟩ fault := by
  let grammar : Grammar := .ofRules [⟨⟨"S"⟩, []⟩]
  let parts : TransitionLine :=
    ⟨"0", ":", [":", "/", "S", "#*"], "+01", ["->", "?$", "#7"], ["0"]⟩
  let transition : Transition :=
    ⟨0, ⟨":"⟩, [.terminal ⟨":"⟩, .terminal ⟨"/"⟩, .nonterminal ⟨"S"⟩, .wildcard],
      1, [.terminal ⟨"->"⟩, .lookahead ⟨"$"⟩, .state (.id 7)], [⟨⟨"S"⟩, []⟩]⟩
  obtain ⟨machine, assembled, passed⟩ := Except.exists_eq_ok_of_any
    (Automaton.assemble 8 0 [⟨":"⟩, ⟨"/"⟩, ⟨"->"⟩, ⟨"$"⟩] [⟨"S"⟩] [] [])
    (fun machine =>
      (machine.addTransition transition).toOption.any fun extended =>
        extended.table.row 0 == [transition])
    (by cbv)
  obtain ⟨extended, added, row⟩ := Except.exists_eq_ok_of_any _ _ passed
  have spelled : parts.Spells ["S"] grammar transition :=
    TransitionLine.describes_iff_spells.mp (TransitionLine.transition_eq_ok_iff.mp (by decide))
  have outOfUse : ¬ TransitionLine.Legible grammar ⟨"0", "eps", [], "1", [], ["1"]⟩ := by
    intro legible
    obtain ⟨number, isNumber, inUse⟩ := legible.rules "1" List.mem_cons_self
    have isOne : Text.numeral? "1" = some 1 := rfl
    rw [← Text.numeral?_eq_some_iff, isOne, Option.some.injEq] at isNumber
    subst isNumber
    exact absurd inUse (by decide)
  refine ⟨machine, extended, assembled, ?_, beq_iff_eq.mp row, ?_, ?_⟩
  · obtain ⟨_, _, reached, _⟩ := addLine_reaches_automaton_iff ["S"] ⟨machine, grammar⟩
      ⟨4, ["0", ":", ":", ":", "/", "S", "#*", "->", "+01", ":", "->", "?$", "#7", "/", "0"]⟩
    obtain ⟨meant, only, _, answer⟩ := reached parts
      (.withRules (by decide) (by decide))
      ((TransitionLine.exists_spells_iff ["S"]).mp ⟨transition, spelled⟩)
    obtain rfl := (only transition).mp spelled
    rw [answer, added]
    rfl
  · obtain ⟨_, _, _, undivided, _⟩ :=
      addLine_reaches_automaton_iff ["S"] ⟨machine, grammar⟩ ⟨5, ["0", ":", "->", "1", ":"]⟩
    apply undivided
    rintro ⟨other, written⟩
    have failed : TransitionLine.ofWords ["0", ":", "->", "1", ":"] =
        .error (.missingSeparator .colon) := rfl
    exact absurd (failed.symm.trans (TransitionLine.ofWords_eq_ok_iff.mpr written)) (by simp)
  · obtain ⟨_, _, _, _, illegible⟩ := addLine_reaches_automaton_iff ["S"] ⟨machine, grammar⟩
      ⟨6, ["0", "eps", ":", "->", "1", ":", "/", "1"]⟩
    exact illegible ⟨"0", "eps", [], "1", [], ["1"]⟩ (.withRules (by decide) (by decide)) outOfUse

end Definition

end Pushdown
