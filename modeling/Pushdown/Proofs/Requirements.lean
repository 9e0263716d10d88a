import Pushdown.Proofs.Declared

namespace Pushdown

/-!
# What is asked of a transition, in order

All that is asked of a transition is written down as one list of requirements, each with
the error that is reported if it is the first one violated.  An addition looks at them in
the order of this list.  It succeeds when all of them hold, and then changes nothing but the
row of the transition, which gains it at its end.
-/

/-! ## Requirements -/

/-- What is asked, and what is reported if it is not the case. -/
structure Requirement where
  holds : Prop
  error : BuildError

/-- The result of looking at requirements in order, up to the first one violated. -/
inductive Checked : List Requirement → Option BuildError → Prop where
  | passed :
      Checked [] none
  | violated
      {requirement : Requirement}
      {rest : List Requirement} :
      ¬ requirement.holds →
      Checked (requirement :: rest) (some requirement.error)
  | held
      {requirement : Requirement}
      {rest : List Requirement}
      {fault? : Option BuildError} :
      requirement.holds →
      Checked rest fault? →
      Checked (requirement :: rest) fault?

namespace Checked

theorem single
    {requirement : Requirement}
    {fault? : Option BuildError}
    (passes : requirement.holds → fault? = none)
    (fails : ¬ requirement.holds → fault? = some requirement.error) :
    Checked [requirement] fault? := by
  by_cases holds : requirement.holds
  · rw [passes holds]
    exact .held holds .passed
  · rw [fails holds]
    exact .violated holds

theorem append
    {first second : List Requirement}
    {fault? otherFault? : Option BuildError}
    (checked : Checked first fault?)
    (otherChecked : Checked second otherFault?) :
    Checked (first ++ second) (fault?.or otherFault?) := by
  induction checked with
  | passed => exact otherChecked
  | violated broken => exact .violated broken
  | held holds _ inductionHypothesis => exact .held holds inductionHypothesis

/-- What is asked of each item of a list is looked at item by item. -/
theorem flatMap
    {α : Type}
    {requirements : α → List Requirement}
    {fault? : α → Option BuildError}
    (checked : ∀ item, Checked (requirements item) (fault? item))
    (items : List α) :
    Checked (items.flatMap requirements) (items.findSome? fault?) := by
  induction items with
  | nil => exact .passed
  | cons item rest inductionHypothesis =>
      rw [List.flatMap_cons, List.findSome?_cons]
      have both := (checked item).append inductionHypothesis
      cases found : fault? item <;> simpa [found] using both

/-- One requirement for each item of a list. -/
theorem map
    {α : Type}
    {requirement : α → Requirement}
    {fault? : α → Option BuildError}
    (passes : ∀ item, (requirement item).holds → fault? item = none)
    (fails : ∀ item, ¬ (requirement item).holds → fault? item = some (requirement item).error)
    (items : List α) :
    Checked (items.map requirement) (items.findSome? fault?) := by
  rw [List.map_eq_flatMap]
  exact flatMap (fun item => single (passes item) (fails item)) items

/-- Requirements are looked at with one result. -/
theorem unique
    {requirements : List Requirement}
    {fault? otherFault? : Option BuildError}
    (checked : Checked requirements fault?)
    (otherChecked : Checked requirements otherFault?) :
    fault? = otherFault? := by
  induction checked with
  | passed =>
      cases otherChecked
      rfl
  | violated broken =>
      cases otherChecked with
      | violated _ => rfl
      | held holds _ => exact absurd holds broken
  | held holds _ inductionHypothesis =>
      cases otherChecked with
      | violated broken => exact absurd holds broken
      | held _ later => exact inductionHypothesis later

end Checked

/-! ## Ambiguous transitions -/

theorem StackToken.overlap_iff_zip
    {first second : List StackToken} :
    overlap first second = true ↔
      ∀ pair ∈ first.zip second, pair.1.agrees pair.2 = true := by
  induction first generalizing second with
  | nil => simp [overlap]
  | cons token rest inductionHypothesis =>
      cases second with
      | nil => simp [overlap]
      | cons other others => simp [overlap, inductionHypothesis]

namespace Transition

/--
A transition cannot be added beside an existing one: both have no pattern and the same
input, or both have one, agree as far as both reach, and are not told apart by their inputs.
-/
def Ambiguous
    (existing added : Transition) :
    Prop :=
  (existing.pattern = [] ∧ added.pattern = [] ∧ existing.input = added.input) ∨
    (existing.pattern ≠ [] ∧ added.pattern ≠ [] ∧
      (∀ pair ∈ existing.pattern.zip added.pattern, pair.1.agrees pair.2 = true) ∧
      (existing.input = added.input ∨ existing.input = .epsilon ∨ added.input = .epsilon))

/-- The cause that is given for two ambiguous transitions. -/
def cause
    (existing added : Transition) :
    Ambiguity :=
  if existing.pattern = [] ∧ added.pattern = [] then
    .emptyStackTop
  else if existing.input = .epsilon then
    .epsilonExists
  else if added.input = .epsilon then
    .shadowsInput
  else
    .sameInput

variable
  {existing added : Transition}

theorem compatible_iff_not_ambiguous :
    existing.Compatible added ↔ ¬ existing.Ambiguous added := by
  rw [compatible_iff, Ambiguous, StackToken.overlap_iff_zip]

theorem ambiguity?_eq_cause
    (ambiguous : existing.Ambiguous added) :
    existing.ambiguity? added = some (existing.cause added) := by
  rw [Ambiguous, ← StackToken.overlap_iff_zip] at ambiguous
  unfold ambiguity? cause
  rcases ambiguous with ⟨noPattern, noOther, sameInput⟩ | ⟨pattern, other, overlaps, inputs⟩
  · simp [noPattern, noOther, sameInput]
  · obtain ⟨token, rest, isPattern⟩ := List.exists_cons_of_ne_nil pattern
    obtain ⟨otherToken, others, isOther⟩ := List.exists_cons_of_ne_nil other
    rw [isPattern, isOther] at overlaps
    simp only [isPattern, isOther, overlaps, ↓reduceIte, Terminal.isEpsilon_iff, reduceCtorEq,
      false_and]
    split_ifs <;> simp_all

end Transition

/-! ## The requirements of an addition -/

namespace StackToken

/-- What is reported of a token that is not declared; of a lookahead marker it is the terminal. -/
def reported : StackToken → StackToken
  | .lookahead symbol => .terminal symbol
  | token => token

/-- The symbol of a rule as a token. -/
def ofSymbol : Symbol → StackToken
  | .terminal symbol => .terminal symbol
  | .nonterminal symbol => .nonterminal symbol

end StackToken

namespace Automaton

def stateRequirement
    (machine : Automaton)
    (state : Nat) :
    Requirement where
  holds := state < machine.stateCount
  error := .invalidState state

def inputRequirement
    (machine : Automaton)
    (input : Terminal) :
    Requirement where
  holds := input = .epsilon ∨ input ∈ machine.terminals
  error := .invalidSymbol (.terminal input)

/-- What is asked of a token of a pattern or a replacement. -/
def tokenRequirement
    (machine : Automaton)
    (token : StackToken) :
    Requirement where
  holds := machine.DeclaresToken token
  error := .invalidSymbol token.reported

/-- What is asked of a token of a replacement besides. -/
def wildcardRequirement
    (token : StackToken) :
    Requirement where
  holds := token ≠ .wildcard
  error := .invalidSymbol token

def symbolRequirement
    (machine : Automaton)
    (symbol : Symbol) :
    Requirement where
  holds := machine.DeclaresSymbol symbol
  error := .invalidSymbol (.ofSymbol symbol)

/-- The head of a rule comes before its body. -/
def ruleRequirements
    (machine : Automaton)
    (rule : Rule) :
    List Requirement :=
  (.nonterminal rule.head :: rule.body).map machine.symbolRequirement

/-- A transition has to fit beside each one that is in its row already. -/
def fitRequirement
    (added existing : Transition) :
    Requirement where
  holds := ¬ existing.Ambiguous added
  error := .ambiguous added.source ⟨existing.cause added, existing⟩

/-- All that is asked of a transition, in the order in which it is looked at. -/
def requirements
    (machine : Automaton)
    (transition : Transition) :
    List Requirement :=
  [ machine.stateRequirement transition.source,
    machine.stateRequirement transition.target,
    machine.inputRequirement transition.input ] ++
  (transition.pattern ++ transition.replacement).map machine.tokenRequirement ++
  transition.replacement.map wildcardRequirement ++
  transition.rules.flatMap machine.ruleRequirements ++
  (machine.table.row transition.source).map (fitRequirement transition)

/-! ## One check after the other -/

section Checks

variable
  (machine : Automaton)

theorem checked_state
    (state : Nat) :
    Checked [machine.stateRequirement state] (machine.stateFault? state) := by
  refine .single ?_ ?_
  · intro inside
    exact if_pos inside
  · intro outside
    exact if_neg outside

theorem checked_input
    (input : Terminal) :
    Checked [machine.inputRequirement input] (machine.inputFault? input) := by
  refine .single ?_ ?_
  · rintro (rfl | declared)
    · rfl
    · simp [inputFault?, terminalFault?, declared]
  · intro undeclared
    obtain ⟨readsSome, notDeclared⟩ := not_or.mp undeclared
    simp [inputFault?, terminalFault?, readsSome, notDeclared, inputRequirement]

theorem checked_tokens
    (tokens : List StackToken) :
    Checked (tokens.map machine.tokenRequirement) (tokens.findSome? machine.tokenFault?) := by
  refine .map ?_ ?_ tokens
  · intro token declared
    exact tokenFault?_eq_none_iff.mpr declared
  · intro token undeclared
    rcases token with symbol | symbol | tag | symbol
    case state =>
      cases tag <;>
        simp_all [tokenRequirement, DeclaresToken, tokenFault?, StackToken.reported]
    all_goals
      simp_all [tokenRequirement, DeclaresToken, tokenFault?, terminalFault?,
        nonterminalFault?, StackToken.reported]

theorem checked_wildcards
    (replacement : List StackToken) :
    Checked (replacement.map wildcardRequirement) (wildcardFault? replacement) := by
  rw [wildcardFault?, List.find?_eq_findSome?_guard, List.map_findSome?]
  refine .map ?_ ?_ replacement
  · intro token allowed
    have differs : token ≠ .wildcard := allowed
    simp [StackToken.isWildcard, differs]
  · intro token notAllowed
    have same : token = .wildcard := Classical.not_not.mp notAllowed
    simp [StackToken.isWildcard, same, wildcardRequirement]

theorem checked_rules
    (rules : List Rule) :
    Checked (rules.flatMap machine.ruleRequirements) (rules.findSome? machine.ruleFault?) := by
  refine .flatMap ?_ rules
  intro rule
  have asSymbols :
      machine.ruleFault? rule =
        (.nonterminal rule.head :: rule.body).findSome? machine.symbolFault? := by
    rw [List.findSome?_cons, ruleFault?, symbolFault?]
    cases machine.nonterminalFault? rule.head <;> rfl
  rw [asSymbols]
  refine .map ?_ ?_ _
  · intro symbol declared
    cases symbol <;>
      simp_all [symbolRequirement, DeclaresSymbol, symbolFault?, terminalFault?, nonterminalFault?]
  · intro symbol undeclared
    cases symbol <;>
      simp_all [symbolRequirement, DeclaresSymbol, symbolFault?, terminalFault?,
        nonterminalFault?, StackToken.ofSymbol]

theorem checked_row
    (row : List Transition)
    (transition : Transition) :
    Checked (row.map (fitRequirement transition))
      ((row.findSome? (Table.conflictWith? transition)).map (.ambiguous transition.source)) := by
  rw [List.map_findSome?]
  refine .map ?_ ?_ row
  · intro existing fits
    have compatible : existing.ambiguity? transition = none :=
      Transition.compatible_iff_not_ambiguous.mpr fits
    simp [Table.conflictWith?, compatible]
  · intro existing unfit
    have ambiguous := Transition.ambiguity?_eq_cause (Classical.not_not.mp unfit)
    simp [Table.conflictWith?, ambiguous, fitRequirement]

/-- The checks of an addition look at its requirements in order. -/
theorem checked_requirements
    (transition : Transition) :
    Checked (machine.requirements transition)
      ((machine.declarationFault? transition).or
        ((machine.table.conflict? transition).map (.ambiguous transition.source))) := by
  have states := (machine.checked_state transition.source).append
    (machine.checked_state transition.target)
  have tokens := machine.checked_tokens (transition.pattern ++ transition.replacement)
  have declared := ((states.append (machine.checked_input transition.input)).append tokens).append
    (checked_wildcards transition.replacement)
  have labelled := declared.append (machine.checked_rules transition.rules)
  have all := labelled.append (checked_row (machine.table.row transition.source) transition)
  rw [List.findSome?_append, ← Option.or_assoc] at all
  exact all

variable
  {machine}
  {transition : Transition}

/-- A transition is refused with the error of the first requirement that it violates. -/
theorem addTransition_eq_error_iff
    {error : BuildError} :
    machine.addTransition transition = .error error ↔
      Checked (machine.requirements transition) (some error) := by
  have checked := machine.checked_requirements transition
  have refused_iff :
      machine.addTransition transition = .error error ↔
        (machine.declarationFault? transition).or
            ((machine.table.conflict? transition).map (.ambiguous transition.source)) =
          some error := by
    unfold addTransition Table.insert
    cases machine.declarationFault? transition with
    | some fault => simp
    | none => cases machine.table.conflict? transition <;> simp
  rw [refused_iff]
  constructor
  · intro found
    exact found ▸ checked
  · intro other
    exact checked.unique other

end Checks

/--
A transition is added exactly if it is admitted and is not ambiguous with one of its row.
Then its row gains it at the end, and nothing else changes.  Otherwise the error is that of
the first requirement violated, and nothing changes.
-/
theorem addTransition_checks_in_order
    (machine : Automaton)
    (transition : Transition) :
    ((∃ extended, machine.addTransition transition = .ok extended) ↔
        machine.Admits transition ∧
          ∀ existing ∈ machine.table.row transition.source, ¬ existing.Ambiguous transition) ∧
      (∀ extended,
        machine.addTransition transition = .ok extended →
        machine.edit (.addTransition transition) = extended ∧
          extended.table.row transition.source =
            machine.table.row transition.source ++ [transition] ∧
          (∀ state,
            state ≠ transition.source → extended.table.row state = machine.table.row state) ∧
          extended.stateCount = machine.stateCount ∧
          { extended with table := machine.table } = machine) ∧
      ∀ error,
        (machine.addTransition transition = .error error ↔
          Checked (machine.requirements transition) (some error)) ∧
        (machine.addTransition transition = .error error →
          machine.edit (.addTransition transition) = machine) := by
  refine ⟨?_, ?_, ?_⟩
  · simp only [addTransition_eq_ok_iff, Transition.compatible_iff_not_ambiguous, exists_and_left,
      exists_eq, and_true]
  · intro extended added
    obtain ⟨admitted, _, rfl⟩ := addTransition_eq_ok_iff.mp added
    refine ⟨?_, ?_, ?_, stateCount_extend machine transition, rfl⟩
    · rw [edit, added]
    · simp [row_extend admitted.source]
    · intro state elsewhere
      simp [row_extend admitted.source, elsewhere.symm]
  · intro error
    refine ⟨addTransition_eq_error_iff, ?_⟩
    intro refused
    rw [edit, refused]

/--
Of three additions one succeeds, one has faults in its replacement, its rule and its row, of
which the first is reported, and one is ambiguous with the second transition of its row.
-/
theorem addTransition_checks_in_order_three_times :
    ∃ machine extended,
      assemble 2 0 [⟨"a"⟩, ⟨"x"⟩] [] [1]
          [ ⟨0, ⟨"a"⟩, [.terminal ⟨"x"⟩], 1, [], []⟩,
            ⟨0, ⟨"a"⟩, [.state (.id 1)], 1, [], []⟩ ] = .ok machine ∧
        machine.addTransition ⟨0, ⟨"a"⟩, [.state (.id 0)], 1, [], []⟩ = .ok extended ∧
        extended.table.row 0 =
          machine.table.row 0 ++ [⟨0, ⟨"a"⟩, [.state (.id 0)], 1, [], []⟩] ∧
        extended.table.row 1 = machine.table.row 1 ∧
        Checked
          (machine.requirements
            ⟨0, .epsilon, [.wildcard], 1, [.lookahead ⟨"q"⟩, .wildcard], [⟨⟨"Q"⟩, []⟩]⟩)
          (some (.invalidSymbol (.terminal ⟨"q"⟩))) ∧
        Checked (machine.requirements ⟨0, .epsilon, [.wildcard], 1, [], []⟩)
          (some (.ambiguous 0 ⟨.shadowsInput, ⟨0, ⟨"a"⟩, [.state (.id 1)], 1, [], []⟩⟩)) ∧
        machine.edit (.addTransition ⟨0, .epsilon, [.wildcard], 1, [], []⟩) = machine := by
  let fitting : Transition := ⟨0, ⟨"a"⟩, [.state (.id 0)], 1, [], []⟩
  let undeclared : Transition :=
    ⟨0, .epsilon, [.wildcard], 1, [.lookahead ⟨"q"⟩, .wildcard], [⟨⟨"Q"⟩, []⟩]⟩
  let ambiguous : Transition := ⟨0, .epsilon, [.wildcard], 1, [], []⟩
  let conflict : Conflict := ⟨.shadowsInput, ⟨0, ⟨"a"⟩, [.state (.id 1)], 1, [], []⟩⟩
  obtain ⟨machine, assembled, passed⟩ := Except.exists_eq_ok_of_any
    (assemble 2 0 [⟨"a"⟩, ⟨"x"⟩] [] [1]
      [ ⟨0, ⟨"a"⟩, [.terminal ⟨"x"⟩], 1, [], []⟩,
        ⟨0, ⟨"a"⟩, [.state (.id 1)], 1, [], []⟩ ])
    (fun machine =>
      (machine.addTransition fitting).toOption.isSome &&
        decide (machine.addTransition undeclared = .error (.invalidSymbol (.terminal ⟨"q"⟩))) &&
        decide (machine.addTransition ambiguous = .error (.ambiguous 0 conflict)))
    (by cbv)
  simp only [Bool.and_eq_true, decide_eq_true_eq] at passed
  obtain ⟨⟨fits, undeclaredRefused⟩, ambiguousRefused⟩ := passed
  obtain ⟨extended, added, _⟩ :=
    Except.exists_eq_ok_of_any (machine.addTransition fitting) (fun _ => true) (by simpa using fits)
  obtain ⟨_, gained, elsewhere, _⟩ := (machine.addTransition_checks_in_order fitting).2.1 _ added
  have ofUndeclared := (machine.addTransition_checks_in_order undeclared).2.2
    (.invalidSymbol (.terminal ⟨"q"⟩))
  have ofAmbiguous := (machine.addTransition_checks_in_order ambiguous).2.2 (.ambiguous 0 conflict)
  exact ⟨machine, extended, assembled, added, gained, elsewhere 1 (by decide),
    ofUndeclared.1.mp undeclaredRefused, ofAmbiguous.1.mp ambiguousRefused,
    ofAmbiguous.2 ambiguousRefused⟩

end Automaton

end Pushdown
