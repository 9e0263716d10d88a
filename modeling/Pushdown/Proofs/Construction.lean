import Mathlib.Data.List.Permutation
import Pushdown.Automaton.Insertion
import Pushdown.Proofs.Agreement

namespace Pushdown

/-!
# What building an automaton establishes

Every automaton is declared and then extended by transitions that passed all
checks.  The checks are restated as the condition `Admits` on a transition, and
an accepted addition as an equation.  From these follows what holds of every
automaton that can be built: `WellFormed`.
-/

namespace Transition

/-- Two transitions may stand in one row, the second one added after the first. -/
def Compatible
    (existing added : Transition) :
    Prop :=
  existing.ambiguity? added = none

/-- What keeps two transitions apart: both have no pattern, or their patterns overlap. -/
theorem compatible_iff
    {existing added : Transition} :
    existing.Compatible added ↔
      ¬ ((existing.pattern = [] ∧ added.pattern = [] ∧ existing.input = added.input) ∨
          (existing.pattern ≠ [] ∧ added.pattern ≠ [] ∧
            StackToken.overlap existing.pattern added.pattern = true ∧
            (existing.input = added.input ∨
              existing.input = .epsilon ∨ added.input = .epsilon))) := by
  -- The inputs are compared in three steps, which together say what the right side says at once.
  unfold Compatible ambiguity?
  cases existing.pattern with
  | nil =>
      cases added.pattern with
      | nil => simp
      | cons other others => simp
  | cons token rest =>
      cases added.pattern with
      | nil => simp
      | cons other others =>
          cases overlaps : StackToken.overlap (token :: rest) (other :: others) with
          | false => simp
          | true =>
              by_cases existingReadsNothing : existing.input = .epsilon
              · simp [existingReadsNothing]
              · by_cases addedReadsNothing : added.input = .epsilon
                · simp [existingReadsNothing, addedReadsNothing]
                · by_cases sameInput : existing.input = added.input
                  · simp [addedReadsNothing, sameInput]
                  · simp [existingReadsNothing, addedReadsNothing, sameInput]

/-- It does not matter which of two transitions was there first. -/
theorem Compatible.symm
    {first second : Transition}
    (compatible : first.Compatible second) :
    second.Compatible first := by
  rw [compatible_iff] at compatible ⊢
  rintro (⟨secondEmpty, firstEmpty, sameInput⟩ |
    ⟨secondTokens, firstTokens, overlaps, inputs⟩)
  · exact compatible (.inl ⟨firstEmpty, secondEmpty, sameInput.symm⟩)
  · refine compatible (.inr ⟨firstTokens, secondTokens, ?_, ?_⟩)
    · rwa [StackToken.overlap_comm]
    · rcases inputs with sameInput | secondReadsNothing | firstReadsNothing
      · exact .inl sameInput.symm
      · exact .inr (.inr secondReadsNothing)
      · exact .inr (.inl firstReadsNothing)

end Transition

namespace Automaton

/-! ## The checks on a transition -/

/-- The names in a token are declared, and its state exists; the wildcard stands for all of them. -/
def DeclaresToken
    (machine : Automaton) :
    StackToken → Prop
  | .terminal symbol => symbol ∈ machine.terminals
  | .nonterminal symbol => symbol ∈ machine.nonterminals
  | .lookahead symbol => symbol ∈ machine.terminals
  | .state .wildcard => True
  | .state (.id number) => number < machine.stateCount

/-- The symbol of a rule is declared. -/
def DeclaresSymbol
    (machine : Automaton) :
    Symbol → Prop
  | .terminal symbol => symbol ∈ machine.terminals
  | .nonterminal symbol => symbol ∈ machine.nonterminals

/-- All that is asked of a transition, apart from the row it goes into. -/
structure Admits
    (machine : Automaton)
    (transition : Transition) :
    Prop where
  source :
    transition.source < machine.stateCount
  target :
    transition.target < machine.stateCount
  input :
    transition.input = .epsilon ∨ transition.input ∈ machine.terminals
  pattern :
    ∀ token ∈ transition.pattern, machine.DeclaresToken token
  replacement :
    ∀ token ∈ transition.replacement, machine.DeclaresToken token
  wildcardFree :
    .wildcard ∉ transition.replacement
  rules :
    ∀ rule ∈ transition.rules,
      rule.head ∈ machine.nonterminals ∧
        ∀ symbol ∈ rule.body, machine.DeclaresSymbol symbol

theorem tokenFault?_eq_none_iff
    {machine : Automaton}
    {token : StackToken} :
    machine.tokenFault? token = none ↔ machine.DeclaresToken token := by
  rcases token with symbol | symbol | tag | symbol
  case state => cases tag <;> simp [tokenFault?, DeclaresToken]
  all_goals simp [tokenFault?, terminalFault?, nonterminalFault?, DeclaresToken]

theorem ruleFault?_eq_none_iff
    {machine : Automaton}
    {rule : Rule} :
    machine.ruleFault? rule = none ↔
      rule.head ∈ machine.nonterminals ∧
        ∀ symbol ∈ rule.body, machine.DeclaresSymbol symbol := by
  have symbolFault_iff : ∀ symbol : Symbol,
      machine.symbolFault? symbol = none ↔ machine.DeclaresSymbol symbol := by
    intro symbol
    cases symbol <;>
      simp [symbolFault?, terminalFault?, nonterminalFault?, DeclaresSymbol]
  simp [ruleFault?, nonterminalFault?, Option.or_eq_none_iff, List.findSome?_eq_none_iff,
    symbolFault_iff]

/-- No fault is found exactly in the transitions that are admitted. -/
theorem declarationFault?_eq_none_iff
    {machine : Automaton}
    {transition : Transition} :
    machine.declarationFault? transition = none ↔ machine.Admits transition := by
  have input_iff :
      machine.inputFault? transition.input = none ↔
        transition.input = .epsilon ∨ transition.input ∈ machine.terminals := by
    by_cases readsNothing : transition.input = .epsilon <;>
      simp [inputFault?, terminalFault?, readsNothing]
  have wildcard_iff :
      wildcardFault? transition.replacement = none ↔
        .wildcard ∉ transition.replacement := by
    simp only [wildcardFault?, StackToken.isWildcard, Option.map_eq_none_iff,
      List.find?_eq_none, beq_iff_eq]
    exact ⟨fun absent member => absent _ member rfl,
      fun absent token member isWildcard => absent (isWildcard ▸ member)⟩
  have state_iff : ∀ state,
      machine.stateFault? state = none ↔ state < machine.stateCount := by
    simp [stateFault?]
  simp only [declarationFault?, Option.or_eq_none_iff, List.findSome?_eq_none_iff,
    state_iff, input_iff, wildcard_iff, tokenFault?_eq_none_iff, ruleFault?_eq_none_iff]
  constructor
  · rintro ⟨⟨⟨⟨⟨⟨source, target⟩, input⟩, pattern⟩, replacement⟩, wildcardFree⟩, rules⟩
    exact ⟨source, target, input, pattern, replacement, wildcardFree, rules⟩
  · rintro ⟨source, target, input, pattern, replacement, wildcardFree, rules⟩
    exact ⟨⟨⟨⟨⟨⟨source, target⟩, input⟩, pattern⟩, replacement⟩, wildcardFree⟩, rules⟩

/-- Only the declared names and the number of states matter for the admission. -/
theorem Admits.transfer
    {first second : Automaton}
    {transition : Transition}
    (admitted : first.Admits transition)
    (sameTerminals : first.terminals = second.terminals)
    (sameNonterminals : first.nonterminals = second.nonterminals)
    (sameCount : first.stateCount = second.stateCount) :
    second.Admits transition := by
  have sameToken : second.DeclaresToken = first.DeclaresToken := by
    funext token
    rcases token with symbol | symbol | tag | symbol
    case state => cases tag <;> simp only [DeclaresToken, sameCount]
    all_goals simp only [DeclaresToken, sameTerminals, sameNonterminals]
  have sameSymbol : second.DeclaresSymbol = first.DeclaresSymbol := by
    funext symbol
    cases symbol <;> simp only [DeclaresSymbol, sameTerminals, sameNonterminals]
  obtain ⟨source, target, input, pattern, replacement, wildcardFree, rules⟩ := admitted
  refine ⟨sameCount ▸ source, sameCount ▸ target, sameTerminals ▸ input, ?_, ?_,
    wildcardFree, ?_⟩
  · rwa [sameToken]
  · rwa [sameToken]
  · rwa [sameSymbol, ← sameNonterminals]

/-- A declaration is accepted when its states exist and no terminal stands for reading nothing. -/
theorem declare_eq_ok_iff
    {states start : Nat}
    {terminals : List Terminal}
    {nonterminals : List Nonterminal}
    {acceptStates : List Nat}
    {machine : Automaton} :
    declare states start terminals nonterminals acceptStates = .ok machine ↔
      start < states ∧
        (∀ state ∈ acceptStates, state < states) ∧
        .epsilon ∉ terminals ∧
        machine =
          { start := start
            terminals := .ofList terminals
            nonterminals := .ofList nonterminals
            acceptStates := .ofList acceptStates
            table := .empty states
            stepLimit := none } := by
  have inside_iff :
      (SortedSet.ofList acceptStates).toList.find? (states ≤ ·) = none ↔
        ∀ state ∈ acceptStates, state < states := by
    simp [List.find?_eq_none, ← SortedSet.mem_iff_mem_toList, SortedSet.mem_ofList]
  rw [← inside_iff]
  by_cases inside : start < states
  · have notOutside : ¬ states ≤ start := Nat.not_le.mpr inside
    cases refused : (SortedSet.ofList acceptStates).toList.find? (states ≤ ·) with
    | some state => simp [declare, notOutside, refused]
    | none =>
        by_cases declared : .epsilon ∈ terminals
        · simp [declare, notOutside, refused, declared]
        · simp only [declare, notOutside, ↓reduceIte, refused, declared, Except.ok.injEq,
            inside, not_false_eq_true, true_and]
          exact eq_comm
  · simp [declare, inside, Nat.le_of_not_lt inside]

/-! ## Additions -/

/-- The automaton with a transition at the end of the row of its source. -/
def extend
    (machine : Automaton)
    (transition : Transition) :
    Automaton :=
  { machine with table := machine.table.append transition }

@[simp]
theorem stateCount_extend
    (machine : Automaton)
    (transition : Transition) :
    (machine.extend transition).stateCount = machine.stateCount := by
  simp [extend, stateCount]

theorem row_extend
    {machine : Automaton}
    {transition : Transition}
    (inside : transition.source < machine.stateCount)
    (state : Nat) :
    (machine.extend transition).table.row state =
      machine.table.row state ++
        (if transition.source = state then [transition] else []) := by
  rw [extend, Table.row_append _ _ inside]
  by_cases same : transition.source = state
  · simp [same]
  · simp [same, Ne.symm same]

/-- An addition succeeds when the transition is admitted and fits into its row. -/
theorem addTransition_eq_ok_iff
    {machine extended : Automaton}
    {transition : Transition} :
    machine.addTransition transition = .ok extended ↔
      machine.Admits transition ∧
        (∀ existing ∈ machine.table.row transition.source,
          existing.Compatible transition) ∧
        extended = machine.extend transition := by
  have noConflict_iff :
      machine.table.conflict? transition = none ↔
        ∀ existing ∈ machine.table.row transition.source,
          existing.Compatible transition := by
    simp [Table.conflict?, Table.conflictWith?, Transition.Compatible,
      List.findSome?_eq_none_iff]
  rw [← declarationFault?_eq_none_iff, ← noConflict_iff]
  unfold addTransition Table.insert
  cases machine.declarationFault? transition with
  | some fault => simp
  | none =>
      cases machine.table.conflict? transition with
      | some conflict => simp
      | none => simp [extend, eq_comm]

/-- A transition without faults is refused exactly for a transition it does not fit beside. -/
theorem addTransition_ambiguous_iff
    {machine : Automaton}
    {transition : Transition}
    (admitted : machine.Admits transition) :
    (∃ conflict,
        machine.addTransition transition =
          .error (.ambiguous transition.source conflict)) ↔
      ∃ existing ∈ machine.table.row transition.source,
        ¬ existing.Compatible transition := by
  have faultless := declarationFault?_eq_none_iff.mpr admitted
  cases found : machine.table.conflict? transition with
  | none =>
      have fits : ∀ existing ∈ machine.table.row transition.source,
          existing.Compatible transition := by
        intro existing inRow
        exact Option.map_eq_none_iff.mp (List.findSome?_eq_none_iff.mp found existing inRow)
      simp only [addTransition, faultless, Table.insert, found, reduceCtorEq, exists_false,
        false_iff]
      rintro ⟨existing, inRow, unfit⟩
      exact unfit (fits existing inRow)
  | some conflict =>
      obtain ⟨existing, inRow, conflicts⟩ := List.exists_of_findSome?_eq_some found
      obtain ⟨cause, ambiguous, _⟩ := Option.map_eq_some_iff.mp conflicts
      have unfit : ¬ existing.Compatible transition := by
        simp [Transition.Compatible, ambiguous]
      constructor
      · intro _
        exact ⟨existing, inRow, unfit⟩
      · intro _
        exact ⟨conflict, by simp [addTransition, faultless, Table.insert, found]⟩

/-- Adds transitions one after the other, as long as none of them is refused. -/
def addAll
    (machine : Automaton) :
    List Transition → Except BuildError Automaton
  | [] => .ok machine
  | transition :: rest =>
      match machine.addTransition transition with
      | .error fault => .error fault
      | .ok extended => extended.addAll rest

/-- Declares an automaton and adds transitions to it. -/
def assemble
    (states start : Nat)
    (terminals : List Terminal)
    (nonterminals : List Nonterminal)
    (acceptStates : List Nat)
    (transitions : List Transition) :
    Except BuildError Automaton :=
  match declare states start terminals nonterminals acceptStates with
  | .error fault => .error fault
  | .ok machine => machine.addAll transitions

theorem assemble_eq_ok_iff
    {states start : Nat}
    {terminals : List Terminal}
    {nonterminals : List Nonterminal}
    {acceptStates : List Nat}
    {transitions : List Transition}
    {machine : Automaton} :
    assemble states start terminals nonterminals acceptStates transitions = .ok machine ↔
      ∃ declared,
        declare states start terminals nonterminals acceptStates = .ok declared ∧
          declared.addAll transitions = .ok machine := by
  unfold assemble
  cases declare states start terminals nonterminals acceptStates <;> simp

/-- The automata that can be built; a refused transition leaves an automaton as it is. -/
inductive Built : Automaton → Prop where
  | declare
      {states start : Nat}
      {terminals : List Terminal}
      {nonterminals : List Nonterminal}
      {acceptStates : List Nat}
      {machine : Automaton} :
      declare states start terminals nonterminals acceptStates = .ok machine →
      Built machine
  | addTransition
      {machine extended : Automaton}
      {transition : Transition} :
      Built machine →
      machine.addTransition transition = .ok extended →
      Built extended
  | withStepLimit
      {machine : Automaton}
      (limit : Nat) :
      Built machine →
      Built (machine.withStepLimit limit)

/-- What holds of every automaton that can be built. -/
structure WellFormed
    (machine : Automaton) :
    Prop where
  start :
    machine.start < machine.stateCount
  accepting :
    ∀ state ∈ machine.acceptStates, state < machine.stateCount
  epsilonUndeclared :
    .epsilon ∉ machine.terminals
  sourceOfRow :
    ∀ {state transition},
      transition ∈ machine.table.row state →
      transition.source = state
  admits :
    ∀ {state transition},
      transition ∈ machine.table.row state →
      machine.Admits transition
  compatible :
    ∀ state,
      (machine.table.row state).Pairwise Transition.Compatible

theorem Built.addAll
    {machine extended : Automaton}
    {transitions : List Transition}
    (built : machine.Built)
    (added : machine.addAll transitions = .ok extended) :
    extended.Built := by
  induction transitions generalizing machine with
  | nil =>
      cases added
      exact built
  | cons transition rest inductionHypothesis =>
      simp only [Automaton.addAll] at added
      cases first : machine.addTransition transition with
      | error fault => simp [first] at added
      | ok next =>
          simp only [first] at added
          exact inductionHypothesis (built.addTransition first) added

theorem Built.assemble
    {states start : Nat}
    {terminals : List Terminal}
    {nonterminals : List Nonterminal}
    {acceptStates : List Nat}
    {transitions : List Transition}
    {machine : Automaton}
    (assembled :
      assemble states start terminals nonterminals acceptStates transitions = .ok machine) :
    machine.Built := by
  obtain ⟨fresh, declared, added⟩ := assemble_eq_ok_iff.mp assembled
  exact (Built.declare declared).addAll added

namespace WellFormed

/-- A declaration that is accepted has no transitions yet, and its states exist. -/
theorem ofDeclare
    {states start : Nat}
    {terminals : List Terminal}
    {nonterminals : List Nonterminal}
    {acceptStates : List Nat}
    {machine : Automaton}
    (declared :
      declare states start terminals nonterminals acceptStates = .ok machine) :
    machine.WellFormed := by
  obtain ⟨inside, acceptInside, undeclared, rfl⟩ := declare_eq_ok_iff.mp declared
  refine {
    start := ?_
    accepting := ?_
    epsilonUndeclared := ?_
    sourceOfRow := ?_
    admits := ?_
    compatible := ?_
  }
  · simpa [stateCount] using inside
  · intro state member
    simpa [stateCount] using acceptInside state (SortedSet.mem_ofList.mp member)
  · rwa [SortedSet.mem_ofList]
  · simp
  · simp
  · simp

/-- An accepted addition keeps an automaton well formed. -/
theorem addTransition
    {machine extended : Automaton}
    {transition : Transition}
    (wellFormed : machine.WellFormed)
    (added : machine.addTransition transition = .ok extended) :
    extended.WellFormed := by
  obtain ⟨admitted, fits, rfl⟩ := addTransition_eq_ok_iff.mp added
  have member_iff : ∀ {state other},
      other ∈ (machine.extend transition).table.row state ↔
        other ∈ machine.table.row state ∨
          (transition.source = state ∧ other = transition) := by
    intro state other
    rw [row_extend admitted.source]
    split <;> simp_all
  refine {
    start := ?_
    accepting := ?_
    epsilonUndeclared := wellFormed.epsilonUndeclared
    sourceOfRow := ?_
    admits := ?_
    compatible := ?_
  }
  · rw [stateCount_extend]
    exact wellFormed.start
  · rw [stateCount_extend]
    exact wellFormed.accepting
  · intro state other member
    rcases member_iff.mp member with earlier | ⟨isSource, rfl⟩
    · exact wellFormed.sourceOfRow earlier
    · exact isSource
  · intro state other member
    have admittedBefore : machine.Admits other := by
      rcases member_iff.mp member with earlier | ⟨_, rfl⟩
      · exact wellFormed.admits earlier
      · exact admitted
    exact admittedBefore.transfer rfl rfl (stateCount_extend machine transition).symm
  · intro state
    rw [row_extend admitted.source, List.pairwise_append]
    refine ⟨wellFormed.compatible state, by split <;> simp, ?_⟩
    intro existing inRow other isAdded
    split at isAdded
    · next isSource =>
        rw [List.mem_singleton] at isAdded
        subst other
        exact fits existing (isSource ▸ inRow)
    · simp at isAdded

/-- Every transition of the table stands in the row of its source, and was admitted. -/
theorem mem_row_source
    {machine : Automaton}
    (wellFormed : machine.WellFormed)
    {transition : Transition}
    (inTable : transition ∈ machine.table.transitions) :
    transition ∈ machine.table.row transition.source ∧ machine.Admits transition := by
  rw [Table.transitions_eq_flatMap_row, List.mem_flatMap] at inTable
  obtain ⟨state, _, inRow⟩ := inTable
  exact ⟨wellFormed.sourceOfRow inRow ▸ inRow, wellFormed.admits inRow⟩

end WellFormed

/-- Every automaton that can be built is well formed. -/
theorem Built.wellFormed
    {machine : Automaton}
    (built : machine.Built) :
    machine.WellFormed := by
  induction built with
  | declare declared => exact .ofDeclare declared
  | addTransition _ added inductionHypothesis => exact inductionHypothesis.addTransition added
  | withStepLimit limit _ inductionHypothesis =>
      obtain ⟨start, accepting, epsilonUndeclared, sourceOfRow, admits, compatible⟩ :=
        inductionHypothesis
      exact ⟨start, accepting, epsilonUndeclared, sourceOfRow,
        fun member => (admits member).transfer rfl rfl rfl, compatible⟩

end Automaton

end Pushdown
