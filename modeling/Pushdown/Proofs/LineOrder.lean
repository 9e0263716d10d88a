import Pushdown.Proofs.Reading

namespace Pushdown

/-!
# The order of lines

Directives are told apart by their names before anything is made of them, so a line
may stand anywhere among the lines of other directives.  Among themselves the lines
for rules and for transitions are counted, and of the lines for the number of states and
for the start state the last one counts; the order of all others does not matter.
-/

/-! ## Declared names -/

section DeclaredNames

variable
  {first second : List String}
  (same : ∀ name, name ∈ first ↔ name ∈ second)

include same

theorem Symbol.ofName_congr :
    ofName first = ofName second := by
  funext name
  simp only [ofName, same]

theorem Rule.read_congr :
    read first = read second := by
  funext words
  simp only [read, Symbol.ofName_congr same]

theorem StackToken.read_congr :
    read first = read second := by
  funext word
  simp only [read, same]

theorem Transition.read_congr :
    read first = read second := by
  funext grammar words
  simp only [read, TransitionLine.transition, StackToken.read_congr same]

end DeclaredNames

theorem SortedSet.ofList_congr
    {α : Type}
    [Ord α]
    [Std.TransOrd α]
    [Std.LawfulEqOrd α]
    {first second : List α}
    (same : ∀ member, member ∈ first ↔ member ∈ second) :
    ofList first = ofList second :=
  ext_mem fun member => by simp only [mem_ofList, same]

/-- Repetitions and the order of names and of accepting states do not matter. -/
theorem Automaton.assemble_congr
    {states start : Nat}
    {firstTerminals secondTerminals : List Terminal}
    {firstNonterminals secondNonterminals : List Nonterminal}
    {firstAccepting secondAccepting : List Nat}
    (sameTerminals : ∀ symbol, symbol ∈ firstTerminals ↔ symbol ∈ secondTerminals)
    (sameNonterminals : ∀ symbol, symbol ∈ firstNonterminals ↔ symbol ∈ secondNonterminals)
    (sameAccepting : ∀ state, state ∈ firstAccepting ↔ state ∈ secondAccepting)
    (transitions : List Transition) :
    assemble states start firstTerminals firstNonterminals firstAccepting transitions =
      assemble states start secondTerminals secondNonterminals secondAccepting transitions := by
  simp only [assemble, declare, SortedSet.ofList_congr sameTerminals,
    SortedSet.ofList_congr sameNonterminals, SortedSet.ofList_congr sameAccepting, sameTerminals]

namespace Outline

/-- The outlines differ at most in the order of what has none. -/
structure Agree
    (first second : Outline) :
    Prop where
  stateCount :
    first.stateCount? = second.stateCount?
  start :
    first.start? = second.start?
  acceptStates :
    first.acceptStates.Perm second.acceptStates
  terminals :
    first.terminals.Perm second.terminals
  nonterminals :
    first.nonterminals.Perm second.nonterminals
  ruleLines :
    first.ruleLines.map (·.content) = second.ruleLines.map (·.content)
  transitionLines :
    first.transitionLines.map (·.content) = second.transitionLines.map (·.content)

end Outline

/-- Outlines that agree are outlines of the same definition. -/
theorem Definition.OutlinedBy.transfer
    {definition : Definition}
    {first second : Outline}
    {rules : List Rule}
    {transitions : List Transition}
    (outlined : definition.OutlinedBy first rules transitions)
    (agree : first.Agree second) :
    definition.OutlinedBy second rules transitions := by
  have sameNames : ∀ name, name ∈ second.nonterminals ↔ name ∈ first.nonterminals :=
    fun _ => agree.nonterminals.symm.mem_iff
  obtain ⟨states, start, stateCount, isStart, assembled⟩ := outlined.automaton
  refine {
    readRules := ?_
    grammar := outlined.grammar
    readTransitions := ?_
    automaton := ⟨states, start, agree.stateCount ▸ stateCount, agree.start ▸ isStart, ?_⟩
  }
  · rw [← agree.ruleLines, Rule.read_congr sameNames]
    exact outlined.readRules
  · rw [← agree.transitionLines, Transition.read_congr sameNames]
    exact outlined.readTransitions
  · rw [← assembled]
    exact Automaton.assemble_congr
      (fun _ => (agree.terminals.symm.map _).mem_iff)
      (fun _ => (agree.nonterminals.symm.map _).mem_iff)
      (fun _ => agree.acceptStates.symm.mem_iff)
      transitions

namespace Outline

/-! ## Lines as words -/

/-- The lines of a text, each as its words; blank lines and comments have none. -/
def wordsByLine
    (text : String) :
    List (List String) :=
  (Text.lines text.toList).map lineWords

/-- The lines of a text that are neither blank nor comments, each as its words. -/
def wordLines
    (text : String) :
    List (List String) :=
  ((Text.lines text.toList).map lineWords).filter (· ≠ [])

theorem wordsAfter_eq_filterMap_wordsByLine
    (name text : String) :
    wordsAfter name text =
      (wordsByLine text).filterMap fun words =>
        if words.head? = some name then some words.tail else none := by
  rw [wordsAfter, wordsByLine, List.filterMap_map]
  refine List.filterMap_congr fun line _ => ?_
  rw [wordsAfter?, Function.comp_apply]
  cases lineWords line <;> simp

theorem wordsAfter_eq_filterMap
    (name text : String) :
    wordsAfter name text =
      (wordLines text).filterMap fun words =>
        if words.head? = some name then some words.tail else none := by
  rw [wordsAfter_eq_filterMap_wordsByLine, wordLines, ← wordsByLine, List.filterMap_filter]
  refine List.filterMap_congr fun words _ => ?_
  cases words <;> simp

/-- An outline is read when every line that has words is the line of a directive. -/
theorem exists_read_eq_ok_iff
    {text : String} :
    (∃ outline, read text = .ok outline) ↔
      ∀ words ∈ wordLines text,
        ∃ name rest directive,
          words = name :: rest ∧ Directive.WrittenAs name rest directive := by
  have read_iff :
      (∃ outline, read text = .ok outline) ↔
        ∃ items, List.Forall₂ LineWrittenAs (Text.lines text.toList) items := by
    constructor
    · rintro ⟨outline, isRead⟩
      obtain ⟨items, written, _⟩ := read_eq_ok_iff.mp ⟨outline, isRead, rfl⟩
      exact ⟨items, written⟩
    · rintro ⟨items, written⟩
      obtain ⟨outline, isRead, _⟩ := read_eq_ok_iff.mpr ⟨items, written, rfl⟩
      exact ⟨outline, isRead⟩
  have line_iff : ∀ line,
      (∃ directive?, LineWrittenAs line directive?) ↔
        (lineWords line ≠ [] →
          ∃ name rest directive,
            lineWords line = name :: rest ∧ Directive.WrittenAs name rest directive) := by
    intro line
    constructor
    · rintro ⟨directive?, written⟩ someWords
      cases written with
      | blank noWords => contradiction
      | directive isLine written => exact ⟨_, _, _, isLine, written⟩
    · intro written
      by_cases noWords : lineWords line = []
      · exact ⟨none, .blank noWords⟩
      · obtain ⟨name, rest, directive, isLine, isWritten⟩ := written noWords
        exact ⟨some directive, .directive isLine isWritten⟩
  rw [read_iff, List.exists_forall₂_iff]
  simp [line_iff, wordLines]

/--
The lines of two texts have the same words, in another order, and apart from lines
without words; the lines of these four kinds come in the same order.
-/
structure Rearranges
    (first second : String) :
    Prop where
  lines :
    (wordLines first).Perm (wordLines second)
  inOrder :
    ∀ name ∈ ["states", "start", "rule", "trans"],
      wordsAfter name first = wordsAfter name second

instance (first second : String) : Decidable (Rearranges first second) :=
  decidable_of_iff
    ((wordLines first).Perm (wordLines second) ∧
      ∀ name ∈ ["states", "start", "rule", "trans"],
        wordsAfter name first = wordsAfter name second)
    ⟨fun ⟨lines, inOrder⟩ => ⟨lines, inOrder⟩, fun ⟨lines, inOrder⟩ => ⟨lines, inOrder⟩⟩

namespace Rearranges

variable
  {first second : String}
  (rearranges : Rearranges first second)

include rearranges

theorem symm :
    Rearranges second first :=
  ⟨rearranges.lines.symm, fun name isKind => (rearranges.inOrder name isKind).symm⟩

theorem wordsAfter_perm
    (name : String) :
    (wordsAfter name first).Perm (wordsAfter name second) := by
  rw [wordsAfter_eq_filterMap, wordsAfter_eq_filterMap]
  exact rearranges.lines.filterMap _

/-- Rearranged lines give an outline that agrees with the first one. -/
theorem exists_read_agree
    {outline : Outline}
    (isRead : read first = .ok outline) :
    ∃ other, read second = .ok other ∧ outline.Agree other := by
  have everyLine := exists_read_eq_ok_iff.mp ⟨outline, isRead⟩
  obtain ⟨other, otherIsRead⟩ := exists_read_eq_ok_iff.mpr fun words isLine =>
    everyLine words (rearranges.lines.mem_iff.mpr isLine)
  refine ⟨other, otherIsRead, ?_⟩
  refine {
    stateCount := ?_
    start := ?_
    acceptStates := ?_
    terminals := ?_
    nonterminals := ?_
    ruleLines := ?_
    transitionLines := ?_
  }
  · rw [stateCount?_eq isRead, stateCount?_eq otherIsRead, rearranges.inOrder _ (by simp)]
  · rw [start?_eq isRead, start?_eq otherIsRead, rearranges.inOrder _ (by simp)]
  · rw [acceptStates_eq isRead, acceptStates_eq otherIsRead]
    exact ((rearranges.wordsAfter_perm "accept").map _).flatten
  · rw [terminals_eq isRead, terminals_eq otherIsRead]
    exact (rearranges.wordsAfter_perm "terminals").flatten
  · rw [nonterminals_eq isRead, nonterminals_eq otherIsRead]
    exact (rearranges.wordsAfter_perm "variables").flatten
  · rw [ruleLines_eq isRead, ruleLines_eq otherIsRead, rearranges.inOrder _ (by simp)]
  · rw [transitionLines_eq isRead, transitionLines_eq otherIsRead,
      rearranges.inOrder _ (by simp)]

end Rearranges

end Outline

namespace Definition

theorem read_of_rearranges
    {first second : String}
    (rearranges : Outline.Rearranges first second)
    {definition : Definition}
    (isRead : read first = .ok definition) :
    read second = .ok definition := by
  obtain ⟨outline, isOutlined, rules, transitions, outlined⟩ := read_eq_ok_iff.mp isRead
  obtain ⟨other, otherIsOutlined, agree⟩ := rearranges.exists_read_agree isOutlined
  exact read_eq_ok_iff.mpr ⟨other, otherIsOutlined, rules, transitions, outlined.transfer agree⟩

/--
A text is read exactly if a rearrangement of its lines is, and with the same automaton
and the same grammar, provided that the lines for rules, for transitions, for the number
of states and for the start state come in the same order.
-/
theorem read_eq_ok_iff_of_rearranges
    {first second : String}
    (rearranges : Outline.Rearranges first second)
    (definition : Definition) :
    read first = .ok definition ↔ read second = .ok definition :=
  ⟨read_of_rearranges rearranges, read_of_rearranges rearranges.symm⟩

/-- A definition with its headers first, one of them given twice. -/
def headersFirst : String :=
  "states 9\nstates 2\nstart 0\naccept 1\nterminals a\nterminals b\nvariables S\n" ++
    "rule S -> a S\nrule S -> b\ntrans 0 a : -> 1 : S\ntrans 1 b : S -> 1 : / 1\n"

/-- The same lines with the headers between and after the others, and with comments. -/
def headersLast : String :=
  "# transitions\n\ntrans 0 a : -> 1 : S\nstates 9\nrule S -> a S\ntrans 1 b : S -> 1 : / 1\n" ++
    "terminals b\naccept 1\nrule S -> b\n  variables S\nstart 0\n# headers\nterminals a\nstates 2"

theorem exists_read_headersFirst :
    ∃ definition,
      read headersFirst = .ok definition ∧
        definition.automaton.stateCount = 2 ∧
        (definition.automaton.table.row 0).map (·.replacement) = [[.nonterminal ⟨"S"⟩]] := by
  let rules : List Rule :=
    [⟨⟨"S"⟩, [.terminal ⟨"a"⟩, .nonterminal ⟨"S"⟩]⟩, ⟨⟨"S"⟩, [.terminal ⟨"b"⟩]⟩]
  let transitions : List Transition :=
    [ ⟨0, ⟨"a"⟩, [], 1, [.nonterminal ⟨"S"⟩], []⟩,
      ⟨1, ⟨"b"⟩, [.nonterminal ⟨"S"⟩], 1, [], [⟨⟨"S"⟩, [.terminal ⟨"b"⟩]⟩]⟩ ]
  have isOutlined :
      Outline.read headersFirst =
        .ok ⟨[ ⟨0, .states 9⟩,
               ⟨1, .states 2⟩,
               ⟨2, .start 0⟩,
               ⟨3, .accept [1]⟩,
               ⟨4, .terminals ["a"]⟩,
               ⟨5, .terminals ["b"]⟩,
               ⟨6, .nonterminals ["S"]⟩,
               ⟨7, .rule ["S", "->", "a", "S"]⟩,
               ⟨8, .rule ["S", "->", "b"]⟩,
               ⟨9, .transition ["0", "a", ":", "->", "1", ":", "S"]⟩,
               ⟨10, .transition ["1", "b", ":", "S", "->", "1", ":", "/", "1"]⟩ ]⟩ := by
    decide +kernel
  obtain ⟨machine, assembled, passed⟩ := Except.exists_eq_ok_of_any
    (Automaton.assemble 2 0 [⟨"a"⟩, ⟨"b"⟩] [⟨"S"⟩] [1] transitions)
    (fun machine =>
      machine.stateCount == 2 &&
        (machine.table.row 0).map (·.replacement) == [[.nonterminal ⟨"S"⟩]])
    (by cbv)
  rw [Bool.and_eq_true, beq_iff_eq, beq_iff_eq] at passed
  have isRead : read headersFirst = .ok ⟨machine, .ofRules rules⟩ :=
    read_eq_ok_of_assemble isOutlined rfl rfl (by decide) (by decide) assembled
  exact ⟨_, isRead, passed.1, passed.2⟩

/-- What `S` is and how many states there are is said only after it is used. -/
theorem read_headersLast_of_headersFirst :
    Outline.Rearranges headersFirst headersLast ∧
      ∃ definition,
        read headersFirst = .ok definition ∧
          definition.automaton.stateCount = 2 ∧
          (definition.automaton.table.row 0).map (·.replacement) = [[.nonterminal ⟨"S"⟩]] ∧
          read headersLast = .ok definition := by
  have rearranges : Outline.Rearranges headersFirst headersLast :=
    of_decide_eq_true (by cbv)
  obtain ⟨definition, isRead, stateCount, row⟩ := exists_read_headersFirst
  exact ⟨rearranges, definition, isRead, stateCount, row,
    (read_eq_ok_iff_of_rearranges rearranges definition).mp isRead⟩

end Definition

end Pushdown
