import Mathlib.Data.List.Infix
import Pushdown.Grammar.Reader
import Pushdown.Proofs.LineOrder
import Pushdown.Proofs.RuleNumbers
import Pushdown.Proofs.TextParts

namespace Pushdown

/-!
# Productions in two places

Productions are the lines of a grammar, and after a name they are lines of a definition,
too.  The one reader cuts a line at its first arrow and finds out by itself what the
nonterminals are; the other reads words, and the nonterminals are declared.  What differs
in the end is only that the one takes ASCII blanks to end a word and the other all blanks.
-/

namespace Text

/-- There is no carriage return at the end of the front. -/
theorem dropReturn_append_space
    (front body : List Char) :
    dropReturn (front ++ ' ' :: body) = front ++ ' ' :: dropReturn body := by
  unfold dropReturn
  cases body with
  | nil => simp
  | cons first rest =>
      rw [List.getLast?_append_of_ne_nil _ (by simp), List.getLast?_cons_cons]
      split
      · simp [List.dropLast_append_of_ne_nil]
      · rfl

end Text

/-! ## Production lines -/

/-- A production with one alternative, as it is written around an arrow between spaces. -/
structure Production where
  head : String
  body : String
deriving Repr, DecidableEq

namespace Production

/-- The head is one word, and the parts have none of what separates them in them. -/
structure Plain
    (production : Production) :
    Prop where
  isWord :
    Text.IsWord production.head
  noArrow :
    ¬ Separator.arrow.text.toList <:+: production.head.toList
  noBar :
    '|' ∉ production.body.toList
  noLineFeed :
    '\n' ∉ production.body.toList

instance (production : Production) : Decidable production.Plain :=
  decidable_of_iff
    (Text.IsWord production.head ∧
      ¬ Separator.arrow.text.toList <:+: production.head.toList ∧
      '|' ∉ production.body.toList ∧
      '\n' ∉ production.body.toList)
    ⟨fun ⟨isWord, noArrow, noBar, noLineFeed⟩ => ⟨isWord, noArrow, noBar, noLineFeed⟩,
      fun ⟨isWord, noArrow, noBar, noLineFeed⟩ => ⟨isWord, noArrow, noBar, noLineFeed⟩⟩

def text
    (production : Production) :
    String :=
  production.head ++ " -> " ++ production.body

/-- The text of a grammar with these productions. -/
def grammarText
    (productions : List Production) :
    String :=
  "\n".intercalate (productions.map text)

/-- The lines of a definition with these productions and as little else as possible. -/
def definitionLines
    (productions : List Production) :
    List String :=
  "states 1" :: "start 0" :: " ".intercalate ("variables" :: productions.map (·.head)) ::
    productions.map fun production => "rule " ++ production.text

def definitionText
    (productions : List Production) :
    String :=
  "\n".intercalate (definitionLines productions)

/-- The rule of a production if its body is split into words in a certain way. -/
def rule
    (split : List Char → List String)
    (nonterminals : List String)
    (production : Production) :
    Rule :=
  ⟨⟨production.head⟩, (split production.body.toList).map (Symbol.ofName nonterminals)⟩

/-- The symbols of a rule have the words of the body as their names. -/
theorem body_map_text_rule
    (split : List Char → List String)
    (nonterminals : List String)
    (production : Production) :
    (rule split nonterminals production).body.map Symbol.text =
      split production.body.toList := by
  simp [rule, Function.comp_def]

theorem toList_text
    (production : Production) :
    production.text.toList =
      production.head.toList ++ ' ' :: '-' :: '>' :: ' ' :: production.body.toList := by
  simp [text]

theorem dropReturn_text
    (production : Production) :
    Text.dropReturn production.text.toList =
      production.head.toList ++
        ' ' :: '-' :: '>' :: ' ' :: Text.dropReturn production.body.toList := by
  have dropped := Text.dropReturn_append_space
    (production.head.toList ++ [' ', '-', '>']) production.body.toList
  simpa [toList_text] using dropped

section Plain

variable
  {production : Production}
  (plain : production.Plain)

include plain

theorem Plain.isLine :
    production.text ≠ "" ∧ '\n' ∉ production.text.toList := by
  have notInHead : '\n' ∉ production.head.toList := by
    intro member
    exact absurd (plain.isWord.solid _ member) (by decide)
  refine ⟨?_, ?_⟩
  · simp [← String.toList_eq_nil_iff, toList_text]
  · simp [toList_text, notInHead, plain.noLineFeed]

/-! ## The text of a grammar -/

theorem Plain.read_spaced
    {body : List Char}
    (noBar : '|' ∉ body) :
    ProductionLine.read (production.head.toList ++ ' ' :: '-' :: '>' :: ' ' :: body) =
      .ok ⟨production.head, [Text.asciiWords body]⟩ := by
  have oneAlternative : (' ' :: body).splitOn '|' = [' ' :: body] :=
    List.splitOn_eq_singleton (by simp [noBar])
  have sameWords : Text.asciiWords (' ' :: body) = Text.asciiWords body := by
    rw [Text.asciiWords, Text.runs_cons_separator rfl, Text.asciiWords]
  have cut := Text.cutAtArrow?_eq_some_iff.mpr (Text.cutsAtArrow_spaced plain.noArrow (' ' :: body))
  have trimmed := Text.trim_eq_iff_trims.mpr plain.isWord.trims_append_space
  rw [ProductionLine.read, cut]
  simp [trimmed, plain.isWord.nonempty, oneAlternative, sameWords]

theorem Plain.read_text :
    ProductionLine.read production.text.toList =
      .ok ⟨production.head, [Text.asciiWords production.body.toList]⟩ := by
  rw [toList_text, plain.read_spaced plain.noBar]

theorem Plain.read_dropReturn_text :
    ProductionLine.read (Text.dropReturn production.text.toList) =
      ProductionLine.read production.text.toList := by
  have noBar : '|' ∉ Text.dropReturn production.body.toList :=
    fun member => plain.noBar (Text.dropReturn_subset _ member)
  rw [plain.read_text, dropReturn_text, plain.read_spaced noBar, Text.asciiWords,
    Text.runs_dropReturn rfl, Text.asciiWords]

end Plain

end Production

/-- A line with an arrow is not blank. -/
theorem ProductionLine.isBlankLine_of_read
    {line : List Char}
    {production : ProductionLine}
    (isRead : read line = .ok production) :
    Text.isBlankLine line = false := by
  unfold read at isRead
  split at isRead
  · cases isRead
  · next before after cut =>
      rw [Text.eq_of_cutAtArrow? cut]
      simp [Text.isBlankLine, show Text.isBlank '-' = false by decide]

/-- A text of which all lines can be read is the text of the rules on its lines. -/
theorem Grammar.read_of_lines
    {text : String}
    {lines : List ProductionLine}
    (areRead : (Text.lines text.toList).map ProductionLine.read = lines.map .ok) :
    read text =
      .ok (.ofRules (lines.flatMap (ProductionLine.rules (lines.map (·.head))))) := by
  have each : List.Forall₂ (fun line production => ProductionLine.read line = .ok production)
      (Text.lines text.toList) lines := by
    rwa [← List.forall₂_eq_eq_eq, List.forall₂_map_left_iff, List.forall₂_map_right_iff] at areRead
  have contents : (productionLines text).map (·.content) = Text.lines text.toList := by
    rw [productionLines, List.filter_eq_self.mpr, Text.content_numberedLines]
    intro item member
    have isLine : item.content ∈ Text.lines text.toList := by
      rw [← Text.content_numberedLines]
      exact List.mem_map_of_mem member
    obtain ⟨production, _, isRead⟩ := List.mem_map.mp (areRead ▸ List.mem_map_of_mem isLine)
    simp [ProductionLine.isBlankLine_of_read isRead.symm]
  obtain ⟨numbered, isRead, same⟩ := Text.Numbered.mapM_read_eq_ok_iff.mpr (contents ▸ each)
  simp only [read, isRead, bind, Except.bind, same]
  rfl

theorem Production.read_grammarText
    {productions : List Production}
    (plain : ∀ production ∈ productions, production.Plain) :
    Grammar.read (grammarText productions) =
      .ok (.ofRules
        (productions.map (rule Text.asciiWords (productions.map (·.head))))) := by
  have areLines : ∀ line ∈ productions.map text, line ≠ "" ∧ '\n' ∉ line.toList := by
    rw [List.forall_mem_map]
    exact fun production member => (plain production member).isLine
  let lineOf (production : Production) : ProductionLine :=
    ⟨production.head, [Text.asciiWords production.body.toList]⟩
  have areRead :
      (Text.lines (grammarText productions).toList).map ProductionLine.read =
        (productions.map lineOf).map .ok := by
    rw [grammarText, Text.map_lines_intercalate areLines, List.map_map, List.map_map]
    · exact List.map_congr_left fun production member => (plain production member).read_text
    · rw [List.forall_mem_map]
      exact fun production member => (plain production member).read_dropReturn_text
  have oneRule : ∀ heads : List String,
      (productions.map lineOf).flatMap (ProductionLine.rules heads) =
        productions.map (rule Text.asciiWords heads) := by
    intro heads
    rw [List.flatMap_map, List.map_eq_flatMap]
    rfl
  rw [Grammar.read_of_lines areRead, oneRule, List.map_map]
  rfl

/-! ## The lines of a definition -/

namespace Production

section DefinitionText

variable
  {productions : List Production}
  (plain : ∀ production ∈ productions, production.Plain)

include plain

theorem wordsByLine_definitionText :
    Outline.wordsByLine (definitionText productions) =
      ["states", "1"] :: ["start", "0"] :: ("variables" :: productions.map (·.head)) ::
        productions.map fun production =>
          "rule" :: production.head :: Separator.arrow.text ::
            Text.words production.body.toList := by
  have areWords : ∀ word ∈ "variables" :: productions.map (·.head), Text.IsWord word := by
    rw [List.forall_mem_cons, List.forall_mem_map]
    exact ⟨by decide, fun production member => (plain production member).isWord⟩
  have areLines : ∀ line ∈ definitionLines productions, line ≠ "" ∧ '\n' ∉ line.toList := by
    simp only [definitionLines, List.forall_mem_cons, List.forall_mem_map]
    refine ⟨by decide, by decide, ⟨?_, (Text.isLine_intercalate areWords).lineFeed_not_mem⟩, ?_⟩
    · intro isEmpty
      have noWords := Text.words_intercalate areWords
      rw [isEmpty] at noWords
      cases noWords
    · intro production member
      simp [(plain production member).isLine.2]
  have rulesOfLines : ∀ production ∈ productions,
      Outline.lineWords ("rule " ++ production.text).toList =
        "rule" :: production.head :: Separator.arrow.text ::
          Text.words production.body.toList := by
    intro production member
    have whole : ("rule " ++ production.text).toList =
        "rule".toList ++ ' ' :: (production.head.toList ++ ' ' ::
          (Separator.arrow.text.toList ++ ' ' :: production.body.toList)) := by
      simp [toList_text, Separator.text]
    refine Outline.lineWords_eq ?_ (by decide)
    rw [whole, Text.words_append_blank (by decide) rfl,
      Text.words_append_blank (plain production member).isWord rfl,
      Text.words_append_blank (by decide) rfl]
  rw [Outline.wordsByLine, definitionText,
    Text.map_lines_intercalate areLines fun line _ => Outline.lineWords_dropReturn _]
  simp only [definitionLines, List.map_cons, List.map_map, Function.comp_def]
  rw [Outline.lineWords_eq (Text.words_intercalate areWords) (by decide),
    List.map_congr_left rulesOfLines]
  rfl

/-- Every line of the definition is that of a directive. -/
theorem exists_outline_definitionText :
    ∃ outline, Outline.read (definitionText productions) = .ok outline := by
  refine Outline.exists_read_eq_ok_iff.mpr fun words isLine => ?_
  rw [Outline.wordLines, ← Outline.wordsByLine, wordsByLine_definitionText plain] at isLine
  simp only [List.mem_filter, List.mem_cons, List.mem_map] at isLine
  obtain ⟨rfl | rfl | rfl | ⟨production, _, rfl⟩, _⟩ := isLine
  · exact ⟨"states", ["1"], .states 1, rfl, rfl, rfl⟩
  · exact ⟨"start", ["0"], .start 0, rfl, rfl, rfl⟩
  · exact ⟨"variables", _, .nonterminals _, rfl, rfl, rfl⟩
  · exact ⟨"rule", _, .rule _, rfl, rfl, rfl⟩

theorem exists_read_definitionText :
    ∃ definition,
      Definition.read (definitionText productions) = .ok definition ∧
        definition.grammar =
          .ofRules (productions.map (rule Text.words (productions.map (·.head)))) := by
  obtain ⟨outline, isOutlined⟩ := exists_outline_definitionText plain
  have afterName (name : String) :=
    (Outline.wordsAfter_eq_filterMap_wordsByLine name (definitionText productions)).trans
      (congrArg _ (wordsByLine_definitionText plain))
  have states : outline.stateCount? = some 1 := by
    rw [Outline.stateCount?_eq isOutlined, afterName]
    simp [List.getLast?_cons, show Text.numeral? "1" = some 1 from rfl]
  have start : outline.start? = some 0 := by
    rw [Outline.start?_eq isOutlined, afterName]
    simp [List.getLast?_cons, show Text.numeral? "0" = some 0 from rfl]
  have heads : outline.nonterminals = productions.map (·.head) := by
    rw [Outline.nonterminals_eq isOutlined, afterName]
    simp
  have terminals : outline.terminals = [] := by
    rw [Outline.terminals_eq isOutlined, afterName]
    simp
  have acceptStates : outline.acceptStates = [] := by
    rw [Outline.acceptStates_eq isOutlined, afterName]
    simp
  have ruleWords :
      outline.ruleLines.map (·.content) =
        productions.map fun production =>
          production.head :: Separator.arrow.text :: Text.words production.body.toList := by
    rw [Outline.ruleLines_eq isOutlined, afterName]
    simp [Function.comp_def]
  have transitions : outline.transitionLines.map (·.content) = [] := by
    rw [Outline.transitionLines_eq isOutlined, afterName]
    simp
  obtain ⟨machine, isDeclared⟩ :
      ∃ machine,
        Automaton.declare 1 0 [] ((productions.map (·.head)).map Nonterminal.mk) [] =
          .ok machine := by
    simp only [Automaton.declare_eq_ok_iff]
    exact ⟨_, Nat.zero_lt_one, List.forall_mem_nil _, List.not_mem_nil, rfl⟩
  let rules := productions.map (rule Text.words (productions.map (·.head)))
  refine ⟨⟨machine, .ofRules rules⟩, ?_, rfl⟩
  refine Definition.read_eq_ok_iff.mpr ⟨outline, isOutlined, rules, [], ?_⟩
  refine {
    readRules := ?_
    grammar := rfl
    readTransitions := by rw [transitions]; exact .nil
    automaton := ⟨1, 0, states, start, ?_⟩
  }
  · rw [ruleWords, heads, List.forall₂_map_left_iff, List.forall₂_map_right_iff,
      List.forall₂_same]
    intro production _
    rw [Rule.read, if_pos rfl]
    rfl
  · rw [terminals, heads, acceptStates]
    exact Automaton.assemble_eq_ok_iff.mpr ⟨machine, isDeclared, rfl⟩

/-! ## Both readers -/

/--
The text of a grammar and the lines of a definition with the same productions are both
read, with the words between ASCII blanks as the symbols of the one and the words between
all blanks as those of the other.  The grammars are the same exactly if the bodies have no
other blanks than ASCII ones.
-/
theorem readers_agree_iff :
    ∃ grammar definition,
      Grammar.read (grammarText productions) = .ok grammar ∧
        Definition.read (definitionText productions) = .ok definition ∧
        grammar =
          .ofRules (productions.map (rule Text.asciiWords (productions.map (·.head)))) ∧
        definition.grammar =
          .ofRules (productions.map (rule Text.words (productions.map (·.head)))) ∧
        (grammar = definition.grammar ↔
          ∀ production ∈ productions, ∀ character ∈ production.body.toList,
            Text.isBlank character = true → Text.isAsciiBlank character = true) := by
  obtain ⟨definition, isRead, grammar⟩ := exists_read_definitionText plain
  refine ⟨_, definition, read_grammarText plain, isRead, rfl, grammar, ?_⟩
  rw [grammar]
  constructor
  · intro same production member
    refine Text.isAsciiBlank_of_asciiWords fun word isWord => ?_
    have inBoth : rule Text.asciiWords (productions.map (·.head)) production ∈
        productions.map (rule Text.words (productions.map (·.head))) := by
      rw [← Grammar.mem_rules_ofRules, ← same, Grammar.mem_rules_ofRules]
      exact List.mem_map_of_mem member
    obtain ⟨other, _, sameRule⟩ := List.mem_map.mp inBoth
    have sameNames := congrArg (fun rule => rule.body.map Symbol.text) sameRule
    rw [body_map_text_rule, body_map_text_rule] at sameNames
    exact Text.isWord_of_mem_words (sameNames ▸ isWord)
  · intro ascii
    have sameRules : ∀ production ∈ productions,
        rule Text.asciiWords (productions.map (·.head)) production =
          rule Text.words (productions.map (·.head)) production := by
      intro production member
      rw [rule, Text.asciiWords_eq_words (ascii production member)]
      rfl
    rw [List.map_congr_left sameRules]

end DefinitionText

/-- An arrow in a body, a name that is declared later, and a rule that is written twice. -/
def sharedProductions : List Production :=
  [⟨"E", "E + T-"⟩, ⟨"E", ""⟩, ⟨"T-", "a -> E\r"⟩, ⟨"E", " E\t+  T-"⟩]

theorem readers_agree_sharedProductions :
    ∃ grammar definition,
      Grammar.read (grammarText sharedProductions) = .ok grammar ∧
        Definition.read (definitionText sharedProductions) = .ok definition ∧
        grammar.rules =
          [ ⟨⟨"E"⟩, [.nonterminal ⟨"E"⟩, .terminal ⟨"+"⟩, .nonterminal ⟨"T-"⟩]⟩,
            ⟨⟨"E"⟩, []⟩,
            ⟨⟨"T-"⟩, [.terminal ⟨"a"⟩, .terminal ⟨"->"⟩, .nonterminal ⟨"E"⟩]⟩ ] ∧
        grammar = definition.grammar := by
  obtain ⟨grammar, definition, isRead, definitionIsRead, rules, _, same_iff⟩ :=
    readers_agree_iff (show ∀ production ∈ sharedProductions, production.Plain by decide)
  refine ⟨grammar, definition, isRead, definitionIsRead, ?_, ?_⟩
  · rw [rules]
    cbv
  · refine same_iff.mpr ?_
    have ascii : sharedProductions.all (fun production =>
        production.body.toList.all fun character =>
          !Text.isBlank character || Text.isAsciiBlank character) = true := by
      cbv
    simpa [← Bool.not_eq_true, imp_iff_not_or] using ascii

/-- A no-break space is blank, but not an ASCII blank. -/
def noBreakSpace : Production :=
  ⟨"S", "a\u00a0b"⟩

/-- With a no-break space in a body the one reader has one symbol and the other two. -/
theorem readers_disagree_noBreakSpace :
    noBreakSpace.Plain ∧
      ∃ grammar definition,
        Grammar.read (grammarText [noBreakSpace]) = .ok grammar ∧
          Definition.read (definitionText [noBreakSpace]) = .ok definition ∧
          grammar.rules = [⟨⟨"S"⟩, [.terminal ⟨"a\u00a0b"⟩]⟩] ∧
          definition.grammar.rules = [⟨⟨"S"⟩, [.terminal ⟨"a"⟩, .terminal ⟨"b"⟩]⟩] ∧
          grammar ≠ definition.grammar := by
  obtain ⟨grammar, isRead, rules⟩ := Except.exists_eq_ok_of_any
    (Grammar.read (grammarText [noBreakSpace]))
    (fun grammar => grammar.rules == [⟨⟨"S"⟩, [.terminal ⟨"a\u00a0b"⟩]⟩])
    (by cbv)
  obtain ⟨definition, definitionIsRead, definitionRules⟩ := Except.exists_eq_ok_of_any
    (Definition.read (definitionText [noBreakSpace]))
    (fun definition =>
      definition.grammar.rules == [⟨⟨"S"⟩, [.terminal ⟨"a"⟩, .terminal ⟨"b"⟩]⟩])
    (by decide +kernel)
  rw [beq_iff_eq] at rules definitionRules
  refine ⟨by decide, grammar, definition, isRead, definitionIsRead, rules, definitionRules, ?_⟩
  intro same
  rw [same, definitionRules] at rules
  exact absurd rules (by decide)

end Production

end Pushdown
