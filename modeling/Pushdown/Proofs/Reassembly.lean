import Pushdown.Proofs.InsertionOrder

namespace Pushdown

/-!
# Assembling an automaton again

The transitions of a table, listed state by state, are in another order than the one
they were added in, but in every row the order is the same.  Added in the new order to
the same declaration they build the same automaton again.
-/

namespace Table

/-- Tables with as many states and the same rows are equal. -/
theorem ext_row
    {first second : Table}
    (sameCount : first.stateCount = second.stateCount)
    (sameRows : ∀ state, first.row state = second.row state) :
    first = second := by
  cases first with
  | mk firstRows =>
      cases second with
      | mk secondRows =>
          refine congrArg Table.mk (Array.ext sameCount ?_)
          intro state inFirst inSecond
          simpa [row, inFirst, inSecond] using sameRows state

/-- Where rows hold transitions of their states only, a row can be found again in the table. -/
theorem filter_transitions
    {table : Table}
    (sourceOfRow : ∀ {state transition}, transition ∈ table.row state → transition.source = state)
    (state : Nat) :
    table.transitions.filter (·.source = state) = table.row state := by
  have filtered : ∀ other,
      (table.row other).filter (·.source = state) =
        if other = state then table.row other else [] := by
    intro other
    split
    · next same =>
        rw [List.filter_eq_self]
        intro transition inRow
        simpa using (sourceOfRow inRow).trans same
    · next differs =>
        rw [List.filter_eq_nil_iff]
        intro transition inRow
        simpa [sourceOfRow inRow] using differs
  have upTo : ∀ count,
      (List.range count).flatMap (fun other =>
          if other = state then table.row other else []) =
        if state < count then table.row state else [] := by
    intro count
    induction count with
    | zero => rfl
    | succ count inductionHypothesis =>
        rw [List.range_succ, List.flatMap_append, inductionHypothesis]
        grind
  rw [transitions_eq_flatMap_row, List.filter_flatMap]
  simp only [filtered, upTo]
  split
  · rfl
  · next outside => exact (row_eq_nil (Nat.le_of_not_lt outside)).symm

end Table

namespace Automaton

@[simp]
theorem stateCount_foldl_extend
    (machine : Automaton)
    (transitions : List Transition) :
    (transitions.foldl extend machine).stateCount = machine.stateCount := by
  induction transitions generalizing machine with
  | nil => rfl
  | cons added rest inductionHypothesis =>
      rw [List.foldl_cons, inductionHypothesis, stateCount_extend]

/-- The rows of an assembled automaton hold the transitions of the list, in its order. -/
theorem row_of_assemble
    {states start : Nat}
    {terminals : List Terminal}
    {nonterminals : List Nonterminal}
    {acceptStates : List Nat}
    {transitions : List Transition}
    {machine : Automaton}
    (assembled :
      assemble states start terminals nonterminals acceptStates transitions = .ok machine)
    (state : Nat) :
    machine.table.row state = transitions.filter (·.source = state) := by
  obtain ⟨fresh, declared, added⟩ := assemble_eq_ok_iff.mp assembled
  obtain ⟨admitted, rfl⟩ := addAll_eq_ok_iff.mp added
  obtain ⟨_, _, _, rfl⟩ := declare_eq_ok_iff.mp declared
  rw [row_foldl_extend fun transition member => (admitted.admits transition member).source]
  simp

/-- The names and states of an assembled automaton are those of its declaration. -/
theorem declaration_of_assemble
    {states start : Nat}
    {terminals : List Terminal}
    {nonterminals : List Nonterminal}
    {acceptStates : List Nat}
    {transitions : List Transition}
    {machine : Automaton}
    (assembled :
      assemble states start terminals nonterminals acceptStates transitions = .ok machine) :
    machine.stateCount = states ∧
      machine.terminals = .ofList terminals ∧
      machine.nonterminals = .ofList nonterminals := by
  obtain ⟨fresh, declared, added⟩ := assemble_eq_ok_iff.mp assembled
  obtain ⟨_, rfl⟩ := addAll_eq_ok_iff.mp added
  obtain ⟨_, _, _, rfl⟩ := declare_eq_ok_iff.mp declared
  refine ⟨?_, ?_, ?_⟩
  · rw [stateCount_foldl_extend]
    exact Table.stateCount_empty states
  · rw [foldl_extend_eq]
  · rw [foldl_extend_eq]

/-- No two transitions of a table stand in each other's way. -/
theorem WellFormed.pairwise_transitions
    {machine : Automaton}
    (wellFormed : machine.WellFormed) :
    machine.table.transitions.Pairwise fun earlier later =>
      earlier.source = later.source → earlier.Compatible later := by
  rw [Table.transitions_eq_flatMap_row, List.pairwise_flatMap]
  constructor
  · intro state _
    refine (wellFormed.compatible state).imp ?_
    intro earlier later compatible _
    exact compatible
  · refine List.pairwise_lt_range.imp ?_
    intro state other before earlier inRow later inOtherRow sameSource
    rw [wellFormed.sourceOfRow inRow, wellFormed.sourceOfRow inOtherRow] at sameSource
    omega

/-- The transitions of a table build the automaton again. -/
theorem assemble_transitions
    {states start : Nat}
    {terminals : List Terminal}
    {nonterminals : List Nonterminal}
    {acceptStates : List Nat}
    {transitions : List Transition}
    {machine : Automaton}
    (assembled :
      assemble states start terminals nonterminals acceptStates transitions = .ok machine) :
    assemble states start terminals nonterminals acceptStates machine.table.transitions =
      .ok machine := by
  have wellFormed := (Built.assemble assembled).wellFormed
  have rows := fun state => Table.filter_transitions wellFormed.sourceOfRow state
  obtain ⟨fresh, declared, added⟩ := assemble_eq_ok_iff.mp assembled
  obtain ⟨_, reached⟩ := addAll_eq_ok_iff.mp added
  have sameCount : machine.stateCount = fresh.stateCount := by
    rw [reached, stateCount_foldl_extend]
  have noRows : ∀ state, fresh.table.row state = [] := by
    obtain ⟨_, _, _, rfl⟩ := declare_eq_ok_iff.mp declared
    exact Table.row_empty states
  have admitted : fresh.AdmitsAll machine.table.transitions := by
    refine ⟨?_, ?_, wellFormed.pairwise_transitions⟩
    · intro transition inTable
      refine (wellFormed.mem_row_source inTable).2.transfer ?_ ?_ sameCount
      · rw [reached, foldl_extend_eq]
      · rw [reached, foldl_extend_eq]
    · simp [noRows]
  refine assemble_eq_ok_iff.mpr ⟨fresh, declared, addAll_eq_ok_iff.mpr ⟨admitted, ?_⟩⟩
  have sameTable :
      machine.table.transitions.foldl Table.append fresh.table = machine.table := by
    have added := foldl_extend_eq fresh machine.table.transitions
    refine Table.ext_row ?_ ?_
    · rw [← stateCount, sameCount, ← stateCount_foldl_extend fresh machine.table.transitions, added,
        stateCount]
    · intro state
      have row := row_foldl_extend
        (fun transition inTable => (admitted.admits transition inTable).source) state
      rw [added, noRows, List.nil_append, rows] at row
      exact row
  rw [foldl_extend_eq, sameTable, reached, foldl_extend_eq]

end Automaton

end Pushdown
