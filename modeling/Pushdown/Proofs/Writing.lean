import Pushdown.Proofs.Reading

namespace Pushdown

/-!
# What is written is read again

A token, a transition, a rule and a line with a directive are written as words, and
read from these words again, provided that names can be told from each other and from
everything else that stands on a line.  The conditions are said for each of them.
-/

/-! ## Names -/

/-- A name that is not taken for anything else on a line. -/
structure PlainName
    (name : String) :
    Prop where
  isWord :
    Text.IsWord name
  notState :
    name.toList.head? ≠ some '#'
  notLookahead :
    name.toList.head? ≠ some '?'
  notArrow :
    name ≠ Separator.arrow.text
  notSlash :
    name ≠ "/"
  notEpsilon :
    name ≠ "eps"

instance (name : String) : Decidable (PlainName name) :=
  decidable_of_iff
    (Text.IsWord name ∧ name.toList.head? ≠ some '#' ∧ name.toList.head? ≠ some '?' ∧
      name ≠ Separator.arrow.text ∧ name ≠ "/" ∧ name ≠ "eps")
    ⟨fun ⟨isWord, notState, notLookahead, notArrow, notSlash, notEpsilon⟩ =>
        ⟨isWord, notState, notLookahead, notArrow, notSlash, notEpsilon⟩,
      fun ⟨isWord, notState, notLookahead, notArrow, notSlash, notEpsilon⟩ =>
        ⟨isWord, notState, notLookahead, notArrow, notSlash, notEpsilon⟩⟩

namespace StackToken

/-- A token that is read as it is written, with the names of nonterminals given. -/
def Writable
    (nonterminals : List String) :
    StackToken → Prop
  | .terminal symbol => PlainName symbol.name ∧ symbol.name ∉ nonterminals
  | .nonterminal symbol => PlainName symbol.name ∧ symbol.name ∈ nonterminals
  | .lookahead symbol => PlainName symbol.name
  | .state .wildcard => True
  | .state (.id number) => number < Text.numeralBound

variable
  {nonterminals : List String}
  {token : StackToken}

/-- A plain name is read as the name of a nonterminal or a terminal. -/
theorem read_plainName
    {name : String}
    (plain : PlainName name) :
    read nonterminals name =
      if name ∈ nonterminals then .ok (.nonterminal ⟨name⟩) else .ok (.terminal ⟨name⟩) := by
  have notState := plain.notState
  have notLookahead := plain.notLookahead
  unfold read
  split <;> simp_all

theorem Writable.isWord_text
    (writable : token.Writable nonterminals) :
    Text.IsWord token.text := by
  cases token with
  | terminal symbol => exact writable.1.isWord
  | nonterminal symbol => exact writable.1.isWord
  | lookahead symbol => exact Text.IsWord.append (by decide) (PlainName.isWord writable)
  | state tag =>
      cases tag with
      | id number => exact Text.IsWord.append (by decide) (Text.isWord_toString number)
      | wildcard => decide

/-- A token is not taken for a separator. -/
theorem Writable.text_ne_separator
    (writable : token.Writable nonterminals) :
    token.text ≠ Separator.arrow.text ∧ token.text ≠ "/" := by
  have marked : ∀ {word other : String},
      word.toList.head? ≠ other.toList.head? → word ≠ other := by
    intro word other differ same
    exact differ (same ▸ rfl)
  cases token with
  | terminal symbol => exact ⟨writable.1.notArrow, writable.1.notSlash⟩
  | nonterminal symbol => exact ⟨writable.1.notArrow, writable.1.notSlash⟩
  | lookahead symbol => constructor <;> exact marked (by simp [text, Separator.text])
  | state tag =>
      cases tag with
      | id number => constructor <;> exact marked (by simp [text, StateTag.text, Separator.text])
      | wildcard => decide

/-- A token is read as it was written. -/
theorem Writable.read_text
    (writable : token.Writable nonterminals) :
    read nonterminals token.text = .ok token := by
  cases token with
  | terminal symbol => rw [text, Terminal.text, read_plainName writable.1, if_neg writable.2]
  | nonterminal symbol => rw [text, Nonterminal.text, read_plainName writable.1, if_pos writable.2]
  | lookahead symbol =>
      have plain : PlainName symbol.name := writable
      obtain ⟨first, rest, name⟩ := List.exists_cons_of_ne_nil plain.isWord.toList_ne_nil
      have marked : ("?" ++ symbol.name).toList = '?' :: first :: rest := by simp [name]
      simp only [read, text, Terminal.text, marked]
      rw [← name, String.ofList_toList]
  | state tag =>
      cases tag with
      | wildcard => rfl
      | id number =>
          have marked : ("#" ++ toString number).toList = '#' :: (toString number).toList := by
            simp
          have notStar : (toString number).toList ≠ ['*'] := by
            intro isStar
            have isDigit : '*'.isDigit = true :=
              Text.isDigit_of_mem_toString (isStar ▸ List.mem_singleton_self '*')
            contradiction
          simp only [read, text, StateTag.text, marked, String.ofList_toList]
          rw [readNumber_eq_ok_iff.mpr (Text.numeral?_toString writable), Except.map]

end StackToken

/-- An input is read as it was written, `ε` included. -/
theorem Terminal.read_text
    {input : Terminal}
    (notShort : input.name ≠ "eps") :
    Terminal.read input.text = input := by
  by_cases readsNothing : input = .epsilon
  · rw [readsNothing]
    rfl
  · have notLong : input.name ≠ Terminal.epsilon.name := by
      intro sameName
      exact readsNothing (congrArg Terminal.mk sameName)
    simp [Terminal.read, Terminal.text, epsilonWords, notLong, notShort]

/-- The numbers of rules are read as these rules. -/
theorem Grammar.forall₂_indexOf?
    {grammar : Grammar}
    {rules : List Rule}
    (fewRules : grammar.rules.length ≤ Text.numeralBound)
    (known : ∀ rule ∈ rules, rule ∈ grammar.rules) :
    List.Forall₂
      (fun word rule => ∃ number,
        Text.numeral? word = some number ∧ grammar.rule? number = some rule)
      ((rules.filterMap grammar.indexOf?).map toString) rules := by
  induction rules with
  | nil => exact .nil
  | cons rule rest inductionHypothesis =>
      rw [List.forall_mem_cons] at known
      obtain ⟨number, located⟩ := List.mem_iff_getElem?.mp known.1
      have first : grammar.indexOf? rule = some number := grammar.agree.mpr located
      have inside := Grammar.lt_length_of_indexOf? first
      rw [List.filterMap_cons_some first, List.map_cons]
      refine .cons ⟨number, ?_, located⟩ (inductionHypothesis known.2)
      exact Text.numeral?_toString (Nat.lt_of_lt_of_le inside fewRules)

/-! ## Transitions -/

namespace Transition

/-- The words of a transition; its rules are written by their numbers in a grammar. -/
def words
    (grammar : Grammar)
    (transition : Transition) :
    List String :=
  toString transition.source :: transition.input.text :: Separator.colon.text ::
    (transition.pattern.map StackToken.text ++
      Separator.arrow.text :: toString transition.target :: Separator.colon.text ::
        (transition.replacement.map StackToken.text ++
          "/" :: (transition.rules.filterMap grammar.indexOf?).map toString))

/-- A transition that is read as it is written. -/
structure Writable
    (nonterminals : List String)
    (grammar : Grammar)
    (transition : Transition) :
    Prop where
  source :
    transition.source < Text.numeralBound
  input :
    transition.input = .epsilon ∨ PlainName transition.input.name
  pattern :
    ∀ token ∈ transition.pattern, token.Writable nonterminals
  target :
    transition.target < Text.numeralBound
  replacement :
    ∀ token ∈ transition.replacement, token.Writable nonterminals
  rules :
    ∀ rule ∈ transition.rules, rule ∈ grammar.rules

variable
  {nonterminals : List String}
  {grammar : Grammar}
  {transition : Transition}

theorem Writable.isWord_words
    (writable : transition.Writable nonterminals grammar) :
    ∀ word ∈ transition.words grammar, Text.IsWord word := by
  have input : Text.IsWord transition.input.text := by
    rcases writable.input with readsNothing | plain
    · rw [readsNothing]
      decide
    · exact plain.isWord
  have tokens : ∀ {tokens : List StackToken},
      (∀ token ∈ tokens, token.Writable nonterminals) →
        ∀ word ∈ tokens.map StackToken.text, Text.IsWord word := by
    intro tokens areWritable
    rw [List.forall_mem_map]
    exact fun token member => (areWritable token member).isWord_text
  have numbers : ∀ word ∈ (transition.rules.filterMap grammar.indexOf?).map toString,
      Text.IsWord word := by
    rw [List.forall_mem_map]
    exact fun number _ => Text.isWord_toString number
  have colon : Text.IsWord Separator.colon.text := by decide
  have arrow : Text.IsWord Separator.arrow.text := by decide
  have slash : Text.IsWord "/" := by decide
  simp only [words, List.forall_mem_cons, List.forall_mem_append]
  exact ⟨Text.isWord_toString _, input, colon, tokens writable.pattern, arrow,
    Text.isWord_toString _, colon, tokens writable.replacement, slash, numbers⟩

/-- A transition is read as it was written. -/
theorem Writable.read_words
    (fewRules : grammar.rules.length ≤ Text.numeralBound)
    (writable : transition.Writable nonterminals grammar) :
    read nonterminals grammar (transition.words grammar) = .ok transition := by
  let line : TransitionLine :=
    { source := toString transition.source
      input := transition.input.text
      pattern := transition.pattern.map StackToken.text
      target := toString transition.target
      replacement := transition.replacement.map StackToken.text
      rules := (transition.rules.filterMap grammar.indexOf?).map toString }
  have readBack : ∀ {tokens : List StackToken},
      (∀ token ∈ tokens, token.Writable nonterminals) →
        List.Forall₂ (fun word token => StackToken.read nonterminals word = .ok token)
          (tokens.map StackToken.text) tokens := by
    intro tokens areWritable
    rw [List.forall₂_map_left_iff, List.forall₂_same]
    exact fun token member => (areWritable token member).read_text
  have noArrow : Separator.arrow.text ∉ line.pattern := by
    intro member
    obtain ⟨token, inPattern, isArrow⟩ := List.mem_map.mp member
    exact (writable.pattern token inPattern).text_ne_separator.1 isArrow
  have noSlash : "/" ∉ line.replacement := by
    intro member
    obtain ⟨token, inReplacement, isSlash⟩ := List.mem_map.mp member
    exact (writable.replacement token inReplacement).text_ne_separator.2 isSlash
  have notShort : transition.input.name ≠ "eps" := by
    rcases writable.input with readsNothing | plain
    · rw [readsNothing]
      decide
    · exact plain.notEpsilon
  have described : line.Describes nonterminals grammar transition :=
    { source := Text.numeral?_toString writable.source
      input := Terminal.read_text notShort
      pattern := readBack writable.pattern
      target := Text.numeral?_toString writable.target
      replacement := readBack writable.replacement
      rules := Grammar.forall₂_indexOf? fewRules writable.rules }
  exact Transition.read_eq_ok_iff.mpr ⟨line, .withRules noArrow noSlash, described⟩

end Transition

/-! ## Rules -/

namespace Rule

/-- A rule that is read as it is written, with the names of nonterminals given. -/
structure Writable
    (nonterminals : List String)
    (rule : Rule) :
    Prop where
  head :
    PlainName rule.head.name
  body :
    ∀ symbol ∈ rule.body, PlainName symbol.text
  kinds :
    ∀ symbol ∈ rule.body, symbol.isNonterminal = true ↔ symbol.text ∈ nonterminals

variable
  {nonterminals : List String}
  {rule : Rule}

instance : Decidable (rule.Writable nonterminals) :=
  decidable_of_iff
    (PlainName rule.head.name ∧
      (∀ symbol ∈ rule.body, PlainName symbol.text) ∧
        ∀ symbol ∈ rule.body, symbol.isNonterminal = true ↔ symbol.text ∈ nonterminals)
    ⟨fun ⟨head, body, kinds⟩ => ⟨head, body, kinds⟩,
      fun ⟨head, body, kinds⟩ => ⟨head, body, kinds⟩⟩

/-- A rule is read as it was written. -/
theorem Writable.read_words
    (writable : rule.Writable nonterminals) :
    read nonterminals rule.words = .ok rule := by
  refine read_eq_ok_iff.mpr ⟨rfl, ?_⟩
  intro symbol inBody
  have kind := writable.kinds symbol inBody
  cases symbol with
  | terminal symbol =>
      have absent : (Symbol.terminal symbol).text ∉ nonterminals := by
        simpa [Symbol.isNonterminal] using kind
      exact if_neg absent
  | nonterminal symbol =>
      exact if_pos (kind.mp rfl)

end Rule

/-! ## Lines -/

/-- A directive stands on a line of its own. -/
structure Directive.WrittenOn
    (line : String)
    (directive : Directive) :
    Prop where
  isLine :
    Text.IsLine line
  written :
    Outline.LineWrittenAs line.toList (some directive)

namespace Outline

/-- Words with spaces between them make up the line of a directive. -/
theorem writtenOn_intercalate
    {name : String}
    {words : List String}
    {directive : Directive}
    (isName : Text.IsWord name)
    (notComment : name.toList.head? ≠ some '#')
    (areWords : ∀ word ∈ words, Text.IsWord word)
    (written : directive.WrittenAs name words) :
    directive.WrittenOn (" ".intercalate (name :: words)) := by
  have allWords := List.forall_mem_cons.mpr ⟨isName, areWords⟩
  exact
    { isLine := Text.isLine_intercalate allWords
      written := .directive (lineWords_eq (Text.words_intercalate allWords) notComment) written }

/-- The plain form of a rule makes up the line of a rule. -/
theorem writtenOn_rule
    {nonterminals : List String}
    {rule : Rule}
    (writable : rule.Writable nonterminals) :
    (Directive.rule rule.words).WrittenOn ("rule " ++ rule.text) := by
  have head : Text.IsWord rule.head.text := writable.head.isWord
  have body : ∀ word ∈ rule.body.map Symbol.text, Text.IsWord word := by
    rw [List.forall_mem_map]
    exact fun symbol inBody => (writable.body symbol inBody).isWord
  have whole : ("rule " ++ rule.text).toList =
      "rule".toList ++ ' ' :: (rule.head.text.toList ++ ' ' ::
        (Separator.arrow.text.toList ++ ' ' ::
          (Text.spaced (rule.body.map Symbol.text)).toList)) := by
    simp [Rule.text, Separator.text]
  have split : Text.words ("rule " ++ rule.text).toList = "rule" :: rule.words := by
    rw [whole, Text.words_append_blank (by decide) rfl, Text.words_append_blank head rfl,
      Text.words_append_blank (by decide) rfl, Text.words_spaced body, Rule.words]
  have spaces : Text.IsLine "rule " ∧ Text.IsLine " -> " := by decide
  exact
    { isLine := spaces.1.append ((head.isLine.append spaces.2).append (Text.isLine_spaced body))
      written := .directive (lineWords_eq split (by decide)) ⟨rfl, rfl⟩ }

/-- Directives on lines of their own are read in the order of their lines. -/
theorem exists_read_eq_ok
    {lines : List String}
    {directives : List Directive}
    (written : List.Forall₂ Directive.WrittenOn lines directives) :
    ∃ outline,
      read (String.join (lines.map (· ++ "\n"))) = .ok outline ∧
        outline.directives.map (·.content) = directives := by
  have areLines : ∀ line ∈ lines, Text.IsLine line := by
    induction written with
    | nil => simp
    | cons first _ inductionHypothesis =>
        exact List.forall_mem_cons.mpr ⟨first.isLine, inductionHypothesis⟩
  refine read_eq_ok_iff.mpr ⟨directives.map some, ?_, ?_⟩
  · rw [Text.lines_join areLines, List.forall₂_map_left_iff, List.forall₂_map_right_iff]
    exact written.imp fun _ _ isWritten => isWritten.written
  · simp [List.reduceOption]

end Outline

end Pushdown
