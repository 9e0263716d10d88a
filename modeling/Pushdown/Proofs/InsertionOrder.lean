import Pushdown.Proofs.Path
import Pushdown.Proofs.Precedence

namespace Pushdown

/-!
# The order of additions does not matter

Whether a list of transitions can be added depends on pairs of them alone, in
either order, so a rearranged list can be added as well.  The two automata have
rows with the same members, and thus take the same runs.
-/

namespace Automaton

/-! ## Which lists of transitions can be added -/

/-- The transitions of a list fit into their rows and beside each other. -/
structure AdmitsAll
    (machine : Automaton)
    (transitions : List Transition) :
    Prop where
  admits :
    ∀ transition ∈ transitions, machine.Admits transition
  fitRows :
    ∀ transition ∈ transitions,
      ∀ existing ∈ machine.table.row transition.source,
        existing.Compatible transition
  fitTogether :
    transitions.Pairwise fun earlier later =>
      earlier.source = later.source → earlier.Compatible later

/-- A list can be added when its head can be, and its tail after that. -/
theorem admitsAll_cons_iff
    {machine : Automaton}
    {transition : Transition}
    {rest : List Transition} :
    machine.AdmitsAll (transition :: rest) ↔
      machine.Admits transition ∧
        (∀ existing ∈ machine.table.row transition.source,
          existing.Compatible transition) ∧
        (machine.extend transition).AdmitsAll rest := by
  constructor
  · rintro ⟨admits, fitRows, fitTogether⟩
    rw [List.forall_mem_cons] at admits fitRows
    rw [List.pairwise_cons] at fitTogether
    refine ⟨admits.1, fitRows.1, ?_, ?_, fitTogether.2⟩
    · intro later member
      exact (admits.2 later member).transfer rfl rfl (stateCount_extend machine transition).symm
    · intro later member existing inRow
      rw [row_extend admits.1.source, List.mem_append] at inRow
      rcases inRow with earlier | isNew
      · exact fitRows.2 later member existing earlier
      · split at isNew
        · next sameSource =>
            rw [List.mem_singleton] at isNew
            subst existing
            exact fitTogether.1 later member sameSource
        · simp at isNew
  · rintro ⟨admitted, fits, admits, fitRows, fitTogether⟩
    have inRow_extend : ∀ state existing,
        existing ∈ machine.table.row state →
        existing ∈ (machine.extend transition).table.row state := by
      intro state existing inRow
      rw [row_extend admitted.source]
      exact List.mem_append_left _ inRow
    have new_inRow :
        transition ∈ (machine.extend transition).table.row transition.source := by
      simp [row_extend admitted.source]
    refine ⟨?_, ?_, ?_⟩
    · rw [List.forall_mem_cons]
      refine ⟨admitted, ?_⟩
      intro later member
      exact (admits later member).transfer rfl rfl (stateCount_extend machine transition)
    · rw [List.forall_mem_cons]
      refine ⟨fits, ?_⟩
      intro later member existing inRow
      exact fitRows later member existing (inRow_extend _ _ inRow)
    · rw [List.pairwise_cons]
      refine ⟨?_, fitTogether⟩
      intro later member sameSource
      exact fitRows later member transition (sameSource ▸ new_inRow)

/-- All additions of a list succeed when its transitions fit in and together. -/
theorem addAll_eq_ok_iff
    {machine extended : Automaton}
    {transitions : List Transition} :
    machine.addAll transitions = .ok extended ↔
      machine.AdmitsAll transitions ∧ extended = transitions.foldl extend machine := by
  induction transitions generalizing machine with
  | nil =>
      have nothing : machine.AdmitsAll [] := ⟨by simp, by simp, .nil⟩
      simp [addAll, nothing, eq_comm]
  | cons transition rest inductionHypothesis =>
      rw [admitsAll_cons_iff, List.foldl_cons, addAll]
      cases first : machine.addTransition transition with
      | error fault =>
          have refused : ¬ (machine.Admits transition ∧
              ∀ existing ∈ machine.table.row transition.source,
                existing.Compatible transition) := by
            rintro ⟨admitted, fits⟩
            rw [addTransition_eq_ok_iff.mpr ⟨admitted, fits, rfl⟩] at first
            contradiction
          simp only [reduceCtorEq, false_iff]
          rintro ⟨⟨admitted, fits, _⟩, _⟩
          exact refused ⟨admitted, fits⟩
      | ok next =>
          obtain ⟨admitted, fits, rfl⟩ := addTransition_eq_ok_iff.mp first
          simp only
          rw [inductionHypothesis]
          simp only [admitted, true_and]
          exact ⟨fun added => ⟨⟨fits, added.1⟩, added.2⟩,
            fun added => ⟨added.1.2, added.2⟩⟩

/-- What can be added in one order can be added in any other. -/
theorem AdmitsAll.perm
    {machine : Automaton}
    {first second : List Transition}
    (admitted : machine.AdmitsAll first)
    (rearranged : first.Perm second) :
    machine.AdmitsAll second := by
  refine ⟨?_, ?_, ?_⟩
  · intro transition member
    exact admitted.admits transition (rearranged.mem_iff.mpr member)
  · intro transition member
    exact admitted.fitRows transition (rearranged.mem_iff.mpr member)
  · refine (rearranged.pairwise_iff ?_).mp admitted.fitTogether
    intro earlier later fit sameSource
    exact (fit sameSource.symm).symm

/-! ## Automata that differ in the order of their rows -/

/-- Two automata that differ at most in the order of the transitions in a row. -/
structure Interchangeable
    (first second : Automaton) :
    Prop where
  start :
    first.start = second.start
  acceptStates :
    first.acceptStates = second.acceptStates
  stepLimit :
    first.stepLimit = second.stepLimit
  rows :
    ∀ state transition,
      transition ∈ first.table.row state ↔ transition ∈ second.table.row state

/-- After all additions of a list, a row has gained the members of the list that start there. -/
theorem row_foldl_extend
    {machine : Automaton}
    {transitions : List Transition}
    (inside : ∀ transition ∈ transitions, transition.source < machine.stateCount)
    (state : Nat) :
    (transitions.foldl extend machine).table.row state =
      machine.table.row state ++ transitions.filter (·.source = state) := by
  induction transitions generalizing machine with
  | nil => simp
  | cons added rest inductionHypothesis =>
      rw [List.forall_mem_cons] at inside
      rw [List.foldl_cons, inductionHypothesis (by simpa using inside.2),
        row_extend inside.1, List.append_assoc]
      by_cases isSource : added.source = state <;> simp [isSource]

/-- After all additions of a list, the rows hold the members of the list. -/
theorem mem_row_foldl_extend_iff
    {machine : Automaton}
    {transitions : List Transition}
    (inside : ∀ transition ∈ transitions, transition.source < machine.stateCount)
    {state : Nat}
    {transition : Transition} :
    transition ∈ (transitions.foldl extend machine).table.row state ↔
      transition ∈ machine.table.row state ∨
        (transition ∈ transitions ∧ transition.source = state) := by
  rw [row_foldl_extend inside, List.mem_append, List.mem_filter, decide_eq_true_iff]

theorem foldl_extend_eq
    (machine : Automaton)
    (transitions : List Transition) :
    transitions.foldl extend machine =
      { machine with table := transitions.foldl Table.append machine.table } := by
  induction transitions generalizing machine with
  | nil => rfl
  | cons added rest inductionHypothesis =>
      rw [List.foldl_cons, inductionHypothesis]
      rfl

/-- Rearranged additions lead to interchangeable automata. -/
theorem interchangeable_of_perm
    {machine : Automaton}
    {first second : List Transition}
    (rearranged : first.Perm second)
    (inside : ∀ transition ∈ first, transition.source < machine.stateCount) :
    (first.foldl extend machine).Interchangeable (second.foldl extend machine) := by
  have secondInside : ∀ transition ∈ second, transition.source < machine.stateCount := by
    intro transition member
    exact inside transition (rearranged.mem_iff.mpr member)
  refine ⟨?_, ?_, ?_, ?_⟩
  · rw [foldl_extend_eq, foldl_extend_eq]
  · rw [foldl_extend_eq, foldl_extend_eq]
  · rw [foldl_extend_eq, foldl_extend_eq]
  · intro state transition
    rw [mem_row_foldl_extend_iff inside, mem_row_foldl_extend_iff secondInside,
      rearranged.mem_iff]

namespace Interchangeable

variable
  {first second : Automaton}

theorem withStepLimit
    (interchangeable : first.Interchangeable second)
    (limit : Nat) :
    (first.withStepLimit limit).Interchangeable (second.withStepLimit limit) :=
  ⟨interchangeable.start, interchangeable.acceptStates, rfl, interchangeable.rows⟩

/-- What is preferred does not depend on the order, so the choices are the same. -/
theorem choose?_eq
    (interchangeable : first.Interchangeable second)
    (firstWellFormed : first.WellFormed)
    (secondWellFormed : second.WellFormed)
    {configuration : Configuration}
    (concrete : configuration.stack.WildcardFree) :
    first.choose? configuration = second.choose? configuration := by
  apply Option.ext
  intro choice
  have sameRow := interchangeable.rows configuration.state
  rw [choose?, choose?, firstWellFormed.select?_eq_some_iff concrete,
    secondWellFormed.select?_eq_some_iff concrete]
  exact ⟨.of_mem_iff sameRow, .of_mem_iff fun transition => (sameRow transition).symm⟩

/-- Interchangeable automata take the same runs. -/
theorem history_eq
    (interchangeable : first.Interchangeable second)
    (firstWellFormed : first.WellFormed)
    (secondWellFormed : second.WellFormed)
    (limit : Nat)
    (word : List Terminal) :
    first.history limit word = second.history limit word := by
  obtain ⟨remaining, total, path, halts⟩ := first.exists_path_history limit word
  -- The choices agree as long as the stack is free of wildcards, which every step preserves.
  have lastConcrete := firstWellFormed.wildcardFree_of_path path
  have samePath :=
    path.transfer interchangeable.acceptStates firstWellFormed.wildcardFree_follow
      (fun concrete _ chosen =>
        interchangeable.choose?_eq firstWellFormed secondWellFormed concrete ▸ chosen)
      (first.initial_wildcardFree word)
  have sameHalt :=
    halts.transfer fun _ =>
      interchangeable.choose?_eq firstWellFormed secondWellFormed lastConcrete
  have sameRun := samePath.runFrom_eq_of_halts sameHalt
  rw [← total] at sameRun
  have sameInitial : first.initial word = second.initial word := by
    rw [initial, initial, interchangeable.start]
  rw [history.eq_def second, ← sameInitial, sameRun]

/-- A run under the limit of the automaton, or the budget, is the same. -/
theorem run_eq
    (interchangeable : first.Interchangeable second)
    (firstWellFormed : first.WellFormed)
    (secondWellFormed : second.WellFormed)
    (budget : Nat)
    (word : List Terminal) :
    first.run budget word = second.run budget word := by
  have sameLimit : first.limitOr budget = second.limitOr budget := by
    rw [limitOr, limitOr, interchangeable.stepLimit]
  rw [run, run, sameLimit, runWithin, runWithin,
    interchangeable.history_eq firstWellFormed secondWellFormed]

end Interchangeable

/--
If additions to a fresh automaton succeed in one order then they do in any other,
and the automata give the same results for all words and step limits.
-/
theorem assemble_perm
    {states start : Nat}
    {terminals : List Terminal}
    {nonterminals : List Nonterminal}
    {acceptStates : List Nat}
    {first second : List Transition}
    (rearranged : first.Perm second) :
    ((∃ machine,
        assemble states start terminals nonterminals acceptStates first = .ok machine) ↔
      ∃ machine,
        assemble states start terminals nonterminals acceptStates second = .ok machine) ∧
    ∀ machine other,
      assemble states start terminals nonterminals acceptStates first = .ok machine →
      assemble states start terminals nonterminals acceptStates second = .ok other →
      ∀ budget word,
        machine.run budget word = other.run budget word ∧
          ∀ limit,
            (machine.withStepLimit limit).run budget word =
              (other.withStepLimit limit).run budget word := by
  constructor
  · simp only [assemble_eq_ok_iff, addAll_eq_ok_iff]
    constructor
    · rintro ⟨_, fresh, declared, admitted, rfl⟩
      exact ⟨_, fresh, declared, admitted.perm rearranged, rfl⟩
    · rintro ⟨_, fresh, declared, admitted, rfl⟩
      exact ⟨_, fresh, declared, admitted.perm rearranged.symm, rfl⟩
  · intro machine other firstAssembled secondAssembled budget word
    have built := Built.assemble firstAssembled
    have otherBuilt := Built.assemble secondAssembled
    rw [assemble_eq_ok_iff] at firstAssembled secondAssembled
    obtain ⟨fresh, declared, added⟩ := firstAssembled
    obtain ⟨sameFresh, sameDeclared, otherAdded⟩ := secondAssembled
    rw [declared] at sameDeclared
    cases sameDeclared
    obtain ⟨admitted, rfl⟩ := addAll_eq_ok_iff.mp added
    obtain ⟨_, rfl⟩ := addAll_eq_ok_iff.mp otherAdded
    have interchangeable := interchangeable_of_perm rearranged
      fun transition member => (admitted.admits transition member).source
    refine ⟨interchangeable.run_eq built.wellFormed otherBuilt.wellFormed budget word, ?_⟩
    intro limit
    exact (interchangeable.withStepLimit limit).run_eq
      (built.withStepLimit limit).wellFormed (otherBuilt.withStepLimit limit).wellFormed
      budget word

/-- The reversed order is accepted, too, and accepts the same word. -/
theorem assemble_perm_reversed :
    ∃ machine other,
      assemble 3 0 [⟨"a"⟩, ⟨"b"⟩] [] [2]
          [ ⟨0, ⟨"a"⟩, [], 1, [.state (.id 0), .terminal ⟨"a"⟩], []⟩,
            ⟨1, ⟨"b"⟩, [.wildcard, .terminal ⟨"a"⟩], 2, [], []⟩,
            ⟨1, .epsilon, [.terminal ⟨"b"⟩], 0, [], []⟩ ] = .ok machine ∧
        assemble 3 0 [⟨"a"⟩, ⟨"b"⟩] [] [2]
          [ ⟨1, .epsilon, [.terminal ⟨"b"⟩], 0, [], []⟩,
            ⟨1, ⟨"b"⟩, [.wildcard, .terminal ⟨"a"⟩], 2, [], []⟩,
            ⟨0, ⟨"a"⟩, [], 1, [.state (.id 0), .terminal ⟨"a"⟩], []⟩ ] = .ok other ∧
        (∃ trace, machine.run 9 [⟨"a"⟩, ⟨"b"⟩] = .ok trace ∧ trace.isAccepted = true) ∧
        machine.run 9 [⟨"a"⟩, ⟨"b"⟩] = other.run 9 [⟨"a"⟩, ⟨"b"⟩] := by
  let shift : Transition :=
    ⟨0, ⟨"a"⟩, [], 1, [.state (.id 0), .terminal ⟨"a"⟩], []⟩
  let close : Transition :=
    ⟨1, ⟨"b"⟩, [.wildcard, .terminal ⟨"a"⟩], 2, [], []⟩
  let back : Transition :=
    ⟨1, .epsilon, [.terminal ⟨"b"⟩], 0, [], []⟩
  have rearranged : [shift, close, back].Perm [back, close, shift] := by decide
  obtain ⟨machine, assembled, passed⟩ := Except.exists_eq_ok_of_any
    (assemble 3 0 [⟨"a"⟩, ⟨"b"⟩] [] [2] [shift, close, back])
    (fun machine => (machine.run 9 [⟨"a"⟩, ⟨"b"⟩]).toOption.any (·.isAccepted))
    (by cbv)
  obtain ⟨other, otherAssembled⟩ := (assemble_perm rearranged).1.mp ⟨machine, assembled⟩
  have same :=
    (assemble_perm rearranged).2 machine other assembled otherAssembled 9 [⟨"a"⟩, ⟨"b"⟩]
  exact ⟨machine, other, assembled, otherAssembled, Except.exists_eq_ok_of_any _ _ passed, same.1⟩

end Automaton

end Pushdown
