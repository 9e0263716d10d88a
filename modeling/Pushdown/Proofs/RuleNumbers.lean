import Pushdown.Proofs.Reading
import Pushdown.Proofs.Reassembly

namespace Pushdown

/-!
# The rules that numbers stand for

The numbers on a transition line count the rules of the grammar, which has a rule
only once even if it is written on several lines.  So a number is a place among the
rule lines without their repetitions.  It is the same place among all rule lines as
long as no line up to there is a repetition.
-/

namespace Grammar

/-! ## Adding rules -/

theorem ofRules_append
    (rules later : List Rule) :
    ofRules (rules ++ later) = (ofRules rules).addRules later :=
  List.foldl_append

/-- The rules of a list are numbered by their first occurrences. -/
theorem rules_ofRules
    (rules : List Rule) :
    (ofRules rules).rules = rules.eraseDups := by
  induction rules using List.reverseRecOn with
  | nil => rfl
  | append_singleton rules rule inductionHypothesis =>
      have last : ofRules (rules ++ [rule]) = (ofRules rules).addRule rule :=
        ofRules_append rules [rule]
      rw [last, rules_addRule, inductionHypothesis, List.eraseDups_append_singleton]
      by_cases known : rule ∈ rules <;> simp [known]

theorem mem_rules_ofRules
    {rules : List Rule}
    {rule : Rule} :
    rule ∈ (ofRules rules).rules ↔ rule ∈ rules := by
  rw [rules_ofRules, List.mem_eraseDups]

/-- Nothing is moved or taken away when a rule is added. -/
theorem rules_prefix_addRule
    (grammar : Grammar)
    (rule : Rule) :
    grammar.rules <+: (grammar.addRule rule).rules := by
  rw [rules_addRule]
  split
  · exact List.prefix_rfl
  · exact List.prefix_append grammar.rules [rule]

theorem rules_prefix_addRules
    (grammar : Grammar)
    (later : List Rule) :
    grammar.rules <+: (grammar.addRules later).rules := by
  induction later generalizing grammar with
  | nil => exact List.prefix_rfl
  | cons rule rest inductionHypothesis =>
      exact (grammar.rules_prefix_addRule rule).trans (inductionHypothesis (grammar.addRule rule))

/-- A number stands for the same rule after others have been added. -/
theorem rule?_addRules
    {grammar : Grammar}
    {rule : Rule}
    {number : Nat}
    (numbered : grammar.rule? number = some rule)
    (later : List Rule) :
    (grammar.addRules later).rule? number = some rule := by
  obtain ⟨inside, isRule⟩ := List.getElem?_eq_some_iff.mp numbered
  have kept := List.prefix_iff_getElem?.mp (grammar.rules_prefix_addRules later) number inside
  rw [isRule] at kept
  exact kept

/--
However many rules have been added one after another: the table lists them by their first
occurrences and none twice, the number that is kept for a rule is the place of that rule,
the entry that is handed out for the next rule is that rule and is in the table from then
on, and neither a place nor a number changes when more rules are added.
-/
theorem ofRules_keeps_numbers
    (rules : List Rule) :
    (ofRules rules).rules = rules.eraseDups ∧
      (ofRules rules).rules.Nodup ∧
      (∀ rule number,
        (ofRules rules).indexOf? rule = some number ↔
          (ofRules rules).rule? number = some rule) ∧
      (∀ next,
        (ofRules rules).intern next = (next, ofRules (rules ++ [next])) ∧
          ∃ number, (ofRules (rules ++ [next])).rule? number = some next) ∧
      ∀ later rule number,
        ((ofRules rules).rule? number = some rule →
          (ofRules (rules ++ later)).rule? number = some rule) ∧
        ((ofRules rules).indexOf? rule = some number →
          (ofRules (rules ++ later)).indexOf? rule = some number) := by
  refine ⟨rules_ofRules rules, (ofRules rules).distinct, fun _ _ => (ofRules rules).agree, ?_, ?_⟩
  · intro next
    refine ⟨?_, ?_⟩
    · have sameEntry := (ofRules rules).fst_intern next
      have sameTable : ((ofRules rules).intern next).2 = ofRules (rules ++ [next]) :=
        (ofRules_append rules [next]).symm
      exact Prod.ext sameEntry sameTable
    · exact List.mem_iff_getElem?.mp (mem_rules_ofRules.mpr (by simp))
  · intro later rule number
    rw [ofRules_append]
    refine ⟨fun numbered => rule?_addRules numbered later, ?_⟩
    intro kept
    exact (Grammar.agree _).mpr (rule?_addRules ((ofRules rules).agree.mp kept) later)

/-- A rule that comes again after another one keeps its number, and so does the other one. -/
theorem ofRules_keeps_numbers_repeated :
    let first : Rule := ⟨⟨"S"⟩, [.nonterminal ⟨"A"⟩]⟩
    let second : Rule := ⟨⟨"A"⟩, []⟩
    let third : Rule := ⟨⟨"A"⟩, [.terminal ⟨"A"⟩]⟩
    (ofRules [first, second, first]).rules = [first, second] ∧
      (ofRules [first, second, first]).intern second =
        (second, ofRules [first, second, first, second]) ∧
      (ofRules [first, second, first, third, second]).indexOf? second = some 1 ∧
      (ofRules [first, second, first, third, second]).rule? 2 = some third := by
  intro first second third
  obtain ⟨listed, _, kept, interned, unchanged⟩ := ofRules_keeps_numbers [first, second, first]
  obtain ⟨listedLater, _, _, _, _⟩ :=
    ofRules_keeps_numbers [first, second, first, third, second]
  have isListed : (ofRules [first, second, first]).rules = [first, second] :=
    listed.trans (by decide)
  refine ⟨isListed, (interned second).1, ?_, ?_⟩
  · refine (unchanged [third, second] second 1).2 ((kept second 1).mpr ?_)
    rw [rule?, isListed]
    rfl
  · rw [rule?, listedLater]
    decide

end Grammar

namespace Definition

/--
The transitions are those of the transition lines, and the numbers after the slash
of a line stand for the rules of its transition, one by one.
-/
def AttachesBy
    (definition : Definition)
    (text : String)
    (standsFor : Nat → Rule → Prop) :
    Prop :=
  ∃ transitions,
    (∀ state,
      definition.automaton.table.row state = transitions.filter (·.source = state)) ∧
    List.Forall₂
      (fun words transition =>
        Transition.read (Outline.wordsAfter "variables" text).flatten definition.grammar words =
            .ok transition ∧
          ∃ line : TransitionLine,
            line.WrittenAs words ∧
              List.Forall₂
                (fun word rule => ∃ number,
                  Text.numeral? word = some number ∧ standsFor number rule)
                line.rules transition.rules)
      (Outline.wordsAfter "trans" text)
      transitions

theorem AttachesBy.imp
    {definition : Definition}
    {text : String}
    {standsFor other : Nat → Rule → Prop}
    (attaches : definition.AttachesBy text standsFor)
    (implies : ∀ {number rule}, standsFor number rule → other number rule) :
    definition.AttachesBy text other := by
  obtain ⟨transitions, rows, attached⟩ := attaches
  refine ⟨transitions, rows, attached.imp ?_⟩
  intro words transition isAttached
  obtain ⟨isRead, line, written, numbered⟩ := isAttached
  refine ⟨isRead, line, written, numbered.imp ?_⟩
  intro word rule isNumbered
  obtain ⟨number, isNumeral, stands⟩ := isNumbered
  exact ⟨number, isNumeral, implies stands⟩

/-- A number stands for the rule with that number in the grammar. -/
theorem attachesBy_grammar
    {text : String}
    {definition : Definition}
    (isRead : read text = .ok definition) :
    definition.AttachesBy text fun number rule =>
      definition.grammar.rule? number = some rule := by
  obtain ⟨outline, isOutlined, rules, transitions, outlined⟩ := read_eq_ok_iff.mp isRead
  have readTransitions := outlined.readTransitions
  rw [Outline.transitionLines_eq isOutlined, Outline.nonterminals_eq isOutlined]
    at readTransitions
  refine ⟨transitions, ?_, readTransitions.imp ?_⟩
  · obtain ⟨states, start, _, _, assembled⟩ := outlined.automaton
    exact Automaton.row_of_assemble assembled
  · intro words transition isTransition
    obtain ⟨line, written, describes⟩ := Transition.read_eq_ok_iff.mp isTransition
    exact ⟨isTransition, line, written, describes.rules⟩

/-- The rules of the grammar are the rule lines without repetitions. -/
theorem rules_of_read
    {text : String}
    {definition : Definition}
    (isRead : read text = .ok definition) :
    definition.grammar.rules.map Rule.words = (Outline.wordsAfter "rule" text).eraseDups := by
  obtain ⟨outline, isOutlined, rules, transitions, outlined⟩ := read_eq_ok_iff.mp isRead
  have readRules := outlined.readRules
  rw [Outline.ruleLines_eq isOutlined] at readRules
  have lines : Outline.wordsAfter "rule" text = rules.map Rule.words := by
    rw [← List.forall₂_eq_eq_eq, List.forall₂_map_right_iff]
    exact readRules.imp fun _ _ isRule => (Rule.read_eq_ok_iff.mp isRule).1
  have readBack : ∀ rule ∈ rules, Rule.read outline.nonterminals rule.words = .ok rule := by
    rwa [lines, List.forall₂_map_left_iff, List.forall₂_same] at readRules
  rw [outlined.grammar, Grammar.rules_ofRules, lines]
  refine List.map_eraseDups ?_
  intro first isFirst second isSecond sameWords
  have same := readBack second isSecond
  rw [← sameWords, readBack first isFirst] at same
  exact Except.ok.inj same

/--
The number `k` after a slash stands for the rule on line `k` of the rule lines without
their repetitions, and this is line `k` of all rule lines exactly if these have no
repetition up to there.
-/
theorem attachesBy_distinct_ruleLines
    {text : String}
    {definition : Definition}
    (isRead : read text = .ok definition) :
    definition.AttachesBy text fun number rule =>
      (Outline.wordsAfter "rule" text).eraseDups[number]? = some rule.words ∧
        ((Outline.wordsAfter "rule" text)[number]? = some rule.words ↔
          ((Outline.wordsAfter "rule" text).take (number + 1)).Nodup) := by
  refine (attachesBy_grammar isRead).imp ?_
  intro number rule isNumbered
  have located : (Outline.wordsAfter "rule" text).eraseDups[number]? = some rule.words := by
    rw [← rules_of_read isRead, List.getElem?_map]
    exact congrArg (Option.map Rule.words) isNumbered
  exact ⟨located, List.getElem?_eq_some_iff_nodup_take located⟩

/-- A definition whose second rule line repeats the first one. -/
def repeatedRule : String :=
  "states 2\nstart 0\naccept 1\nterminals a\nvariables S A\n" ++
    "rule A -> a\nrule A -> a\nrule S -> A\ntrans 0 a : -> 1 : / 1\n"

/-- The directives of this definition. -/
def repeatedRuleOutline : Outline :=
  ⟨[ ⟨0, .states 2⟩,
     ⟨1, .start 0⟩,
     ⟨2, .accept [1]⟩,
     ⟨3, .terminals ["a"]⟩,
     ⟨4, .nonterminals ["S", "A"]⟩,
     ⟨5, .rule ["A", "->", "a"]⟩,
     ⟨6, .rule ["A", "->", "a"]⟩,
     ⟨7, .rule ["S", "->", "A"]⟩,
     ⟨8, .transition ["0", "a", ":", "->", "1", ":", "/", "1"]⟩ ]⟩

theorem outline_repeatedRule :
    Outline.read repeatedRule = .ok repeatedRuleOutline := by
  decide +kernel

theorem exists_read_repeatedRule :
    ∃ definition,
      read repeatedRule = .ok definition ∧
        definition.automaton.table.row 0 =
          [⟨0, ⟨"a"⟩, [], 1, [], [⟨⟨"S"⟩, [.nonterminal ⟨"A"⟩]⟩]⟩] := by
  let rules : List Rule :=
    [ ⟨⟨"A"⟩, [.terminal ⟨"a"⟩]⟩, ⟨⟨"A"⟩, [.terminal ⟨"a"⟩]⟩, ⟨⟨"S"⟩, [.nonterminal ⟨"A"⟩]⟩ ]
  let transitions : List Transition :=
    [⟨0, ⟨"a"⟩, [], 1, [], [⟨⟨"S"⟩, [.nonterminal ⟨"A"⟩]⟩]⟩]
  obtain ⟨machine, assembled, _⟩ := Except.exists_eq_ok_of_any
    (Automaton.assemble 2 0 [⟨"a"⟩] [⟨"S"⟩, ⟨"A"⟩] [1] transitions) (fun _ => true) (by cbv)
  have isRead : read repeatedRule = .ok ⟨machine, .ofRules rules⟩ :=
    read_eq_ok_of_assemble outline_repeatedRule rfl rfl (by decide) (by decide) assembled
  refine ⟨_, isRead, ?_⟩
  rw [Automaton.row_of_assemble assembled]
  rfl

/-- The number stands for the third rule line, as the second one is a repetition. -/
theorem attachesBy_after_repetition :
    ∃ definition,
      read repeatedRule = .ok definition ∧
        (definition.automaton.table.row 0).map (·.rules.map Rule.text) = [["S -> A"]] ∧
        definition.AttachesBy repeatedRule fun number rule =>
          (Outline.wordsAfter "rule" repeatedRule).eraseDups[number]? = some rule.words ∧
            ((Outline.wordsAfter "rule" repeatedRule)[number]? = some rule.words ↔
              ((Outline.wordsAfter "rule" repeatedRule).take (number + 1)).Nodup) := by
  obtain ⟨definition, isRead, row⟩ := exists_read_repeatedRule
  refine ⟨definition, isRead, ?_, attachesBy_distinct_ruleLines isRead⟩
  rw [row]
  rfl

/-- After a repetition a number does not stand for the rule line with that number. -/
theorem not_attachesBy_ruleLines :
    ∃ definition,
      read repeatedRule = .ok definition ∧
        ¬ definition.AttachesBy repeatedRule fun number rule =>
          (Outline.wordsAfter "rule" repeatedRule)[number]? = some rule.words := by
  obtain ⟨definition, isRead, row⟩ := exists_read_repeatedRule
  have rows :
      (definition.automaton.table.row 0).map (·.rules.map Rule.words) = [[["S", "->", "A"]]] := by
    rw [row]
    rfl
  have transitionLines :
      Outline.wordsAfter "trans" repeatedRule = [["0", "a", ":", "->", "1", ":", "/", "1"]] :=
    (Outline.transitionLines_eq outline_repeatedRule).symm
  have ruleLines :
      Outline.wordsAfter "rule" repeatedRule =
        [["A", "->", "a"], ["A", "->", "a"], ["S", "->", "A"]] :=
    (Outline.ruleLines_eq outline_repeatedRule).symm
  have parts :
      TransitionLine.ofWords ["0", "a", ":", "->", "1", ":", "/", "1"] =
        .ok ⟨"0", "a", [], "1", [], ["1"]⟩ :=
    rfl
  have numeral : Text.numeral? "1" = some 1 := rfl
  refine ⟨definition, isRead, ?_⟩
  intro attaches
  obtain ⟨transitions, sameRows, attached⟩ := attaches
  rw [transitionLines, List.forall₂_cons_left_iff] at attached
  obtain ⟨transition, _, ⟨_, line, written, numbered⟩, noMoreLines, rfl⟩ := attached
  cases noMoreLines
  rw [← TransitionLine.ofWords_eq_ok_iff, parts] at written
  cases written
  obtain ⟨rule, _, ⟨number, isNumber, stands⟩, noMoreNumbers, rules⟩ :=
    List.forall₂_cons_left_iff.mp numbered
  cases noMoreNumbers
  rw [numeral] at isNumber
  cases isNumber
  rw [ruleLines, List.getElem?_cons_succ, List.getElem?_cons_zero, Option.some.injEq] at stands
  rw [sameRows 0, List.filter_singleton] at rows
  by_cases startsHere : transition.source = 0
  · simp [startsHere, rules, ← stands] at rows
  · simp [startsHere] at rows

end Definition

end Pushdown
