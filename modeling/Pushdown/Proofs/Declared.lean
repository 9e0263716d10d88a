import Pushdown.Proofs.PrioritisedRun

namespace Pushdown

/-!
# Everything a run touches is declared

An automaton changes only by additions and limits, and a refused addition changes
nothing, so it always has the states and names of its declaration and transitions
that were checked against them.  No step brings anything else onto the stack: the
wildcard stands in patterns alone, and what is read is an input of a transition.
-/

namespace Automaton

/-! ## Changes to an automaton -/

/-- What may be done to an automaton after its declaration. -/
inductive Edit where
  | addTransition (transition : Transition)
  | withStepLimit (limit : Nat)
deriving Repr, DecidableEq

/--
The automaton after a change; a transition that is refused leaves it as it is.

Nothing has to be undone for that: the table is changed in one place only, where the
transition is put at the end of its row, and all checks come before.
-/
def edit
    (machine : Automaton) :
    Edit → Automaton
  | .addTransition transition =>
      match machine.addTransition transition with
      | .ok extended => extended
      | .error _ => machine
  | .withStepLimit limit =>
      machine.withStepLimit limit

/-- The automaton after some changes, one after the other. -/
def edited
    (machine : Automaton)
    (edits : List Edit) :
    Automaton :=
  edits.foldl edit machine

theorem Built.edit
    {machine : Automaton}
    (built : machine.Built)
    (change : Edit) :
    (machine.edit change).Built := by
  cases change with
  | withStepLimit limit => exact built.withStepLimit limit
  | addTransition transition =>
      simp only [Automaton.edit]
      split
      · next added => exact built.addTransition added
      · exact built

theorem Built.edited
    {machine : Automaton}
    (built : machine.Built)
    (edits : List Edit) :
    (machine.edited edits).Built := by
  induction edits generalizing machine with
  | nil => exact built
  | cons change rest inductionHypothesis => exact inductionHypothesis (built.edit change)

/-- Two automata have the same states and declare the same names. -/
structure SameDeclaration
    (first second : Automaton) :
    Prop where
  stateCount :
    first.stateCount = second.stateCount
  start :
    first.start = second.start
  terminals :
    first.terminals = second.terminals
  nonterminals :
    first.nonterminals = second.nonterminals
  acceptStates :
    first.acceptStates = second.acceptStates

theorem SameDeclaration.trans
    {first second third : Automaton}
    (firstSecond : first.SameDeclaration second)
    (secondThird : second.SameDeclaration third) :
    first.SameDeclaration third where
  stateCount := firstSecond.stateCount.trans secondThird.stateCount
  start := firstSecond.start.trans secondThird.start
  terminals := firstSecond.terminals.trans secondThird.terminals
  nonterminals := firstSecond.nonterminals.trans secondThird.nonterminals
  acceptStates := firstSecond.acceptStates.trans secondThird.acceptStates

theorem sameDeclaration_edit
    (machine : Automaton)
    (change : Edit) :
    (machine.edit change).SameDeclaration machine := by
  cases change with
  | withStepLimit limit => exact ⟨rfl, rfl, rfl, rfl, rfl⟩
  | addTransition transition =>
      simp only [edit]
      split
      · next added =>
          obtain ⟨_, _, rfl⟩ := addTransition_eq_ok_iff.mp added
          exact ⟨stateCount_extend machine transition, rfl, rfl, rfl, rfl⟩
      · exact ⟨rfl, rfl, rfl, rfl, rfl⟩

/-- No change touches what was declared. -/
theorem sameDeclaration_edited
    (machine : Automaton)
    (edits : List Edit) :
    (machine.edited edits).SameDeclaration machine := by
  induction edits generalizing machine with
  | nil => exact ⟨rfl, rfl, rfl, rfl, rfl⟩
  | cons change rest inductionHypothesis =>
      exact (inductionHypothesis (machine.edit change)).trans (sameDeclaration_edit machine change)

/-! ## Configurations -/

/-- The state exists, and the stack holds declared tokens other than the wildcard. -/
structure Covers
    (machine : Automaton)
    (state : Nat)
    (stack : List StackToken) :
    Prop where
  state :
    state < machine.stateCount
  wildcardFree :
    .wildcard ∉ stack
  declared :
    ∀ token ∈ stack, machine.DeclaresToken token

/-- A run begins in a state that exists, and on a stack without tokens. -/
theorem WellFormed.covers_initial
    {machine : Automaton}
    (wellFormed : machine.WellFormed)
    (word : List Terminal) :
    machine.Covers (machine.initial word).state (machine.initial word).stack.toList where
  state := wellFormed.start
  wildcardFree := by simp [initial]
  declared := by simp [initial]

/-- A step leads to a state that exists, and puts only admitted tokens onto the stack. -/
theorem WellFormed.covers_follow
    {machine : Automaton}
    (wellFormed : machine.WellFormed)
    {configuration : Configuration}
    {choice : Choice}
    (covered : machine.Covers configuration.state configuration.stack.toList)
    (chosen : machine.choose? configuration = some choice) :
    machine.Covers
      (configuration.follow choice).state
      (configuration.follow choice).stack.toList := by
  obtain ⟨inRow, _, _⟩ := mem_row_of_select? chosen
  have admitted := wellFormed.admits inRow
  refine ⟨admitted.target, wellFormed.wildcardFree_follow covered.wildcardFree chosen, ?_⟩
  intro token member
  simp only [Configuration.follow, Stack.apply, Stack.toList_replaceTop,
    List.mem_append] at member
  rcases member with inReplacement | below
  · exact admitted.replacement token inReplacement
  · exact covered.declared token (List.mem_of_mem_drop below)

/-- What is recorded of a step or at the end of a run. -/
structure CoversSnapshot
    (machine : Automaton)
    (snapshot : Snapshot) :
    Prop where
  configuration :
    machine.Covers snapshot.state snapshot.stack
  consumed :
    snapshot.consumed = .epsilon ∨ snapshot.consumed ∈ machine.terminals

theorem WellFormed.coversSnapshot_record
    {machine : Automaton}
    (wellFormed : machine.WellFormed)
    {configuration : Configuration}
    {choice : Choice}
    (covered : machine.Covers configuration.state configuration.stack.toList)
    (chosen : machine.choose? configuration = some choice) :
    machine.CoversSnapshot (machine.record configuration choice) := by
  obtain ⟨inRow, sameInput, _⟩ := mem_row_of_select? chosen
  have input := (wellFormed.admits inRow).input
  rw [sameInput] at input
  exact ⟨covered, input⟩

/-- All that is recorded along a path from the initial configuration. -/
theorem WellFormed.coversSnapshot_of_path
    {machine : Automaton}
    (wellFormed : machine.WellFormed)
    {first last : Configuration}
    {snapshots : List Snapshot}
    (path : machine.Path first snapshots last)
    (covered : machine.Covers first.state first.stack.toList) :
    ∀ snapshot ∈ snapshots, machine.CoversSnapshot snapshot := by
  induction path with
  | nil configuration => simp
  | cons busy chosen rest inductionHypothesis =>
      rw [List.forall_mem_cons]
      exact ⟨wellFormed.coversSnapshot_record covered chosen,
        inductionHypothesis (wellFormed.covers_follow covered chosen)⟩

/-- All that a returned trace records, the snapshot that shows where the run ended included. -/
theorem WellFormed.coversSnapshot_of_runWithin
    {machine : Automaton}
    (wellFormed : machine.WellFormed)
    {limit : Nat}
    {word : List Terminal}
    {trace : Trace}
    (returned : machine.runWithin limit word = .ok trace) :
    ∀ snapshot ∈ trace.snapshots, machine.CoversSnapshot snapshot := by
  have covered := wellFormed.covers_initial word
  obtain ⟨_, _, path, _⟩ := machine.exists_path_history limit word
  have steps := wellFormed.coversSnapshot_of_path path covered
  intro snapshot member
  rcases Run.outcome_eq_ok_iff.mp returned with ⟨_, rfl⟩ | ⟨_, rfl⟩
  · rcases List.mem_append.mp member with isStep | isMarker
    · exact steps snapshot isStep
    · obtain ⟨_, _, _, rfl⟩ := Run.marker?_eq_some_iff.mp (Option.mem_toList.mp isMarker)
      exact ⟨path.invariant wellFormed.covers_follow covered, .inl rfl⟩
  · exact steps snapshot member

/-- A word of which all is read has declared terminals only, and none that stands for nothing. -/
theorem WellFormed.declared_of_not_rejected
    {machine : Automaton}
    (wellFormed : machine.WellFormed)
    {limit : Nat}
    {word : List Terminal}
    {trace : Trace}
    (returned : machine.runWithin limit word = .ok trace)
    (notRejected : trace.rejected = false) :
    ∀ symbol ∈ word, symbol ≠ .epsilon ∧ symbol ∈ machine.terminals := by
  obtain ⟨unread, reads, allRead⟩ := exists_consumedBy_append returned
  rw [allRead notRejected, List.append_nil] at reads
  intro symbol member
  rw [reads, consumedBy, List.mem_filter, List.mem_map, decide_eq_true_iff] at member
  obtain ⟨⟨snapshot, recorded, rfl⟩, readsSomething⟩ := member
  have covered := wellFormed.coversSnapshot_of_runWithin returned snapshot recorded
  exact ⟨readsSomething, covered.consumed.resolve_left readsSomething⟩

/--
After any additions, refused ones included, and limits, an automaton has the states
and names of its declaration and is well formed.  Its runs record only states that
exist, stacks of declared tokens without wildcards and declared terminals, so a word
with another terminal is rejected if its run ends.
-/
theorem edited_wellFormed_and_runs_covered
    {states start : Nat}
    {terminals : List Terminal}
    {nonterminals : List Nonterminal}
    {acceptStates : List Nat}
    {fresh machine : Automaton}
    {edits : List Edit}
    (declared : declare states start terminals nonterminals acceptStates = .ok fresh)
    (reached : fresh.edited edits = machine) :
    (machine.stateCount = states ∧
        machine.terminals = .ofList terminals ∧
        machine.nonterminals = .ofList nonterminals ∧
        machine.start = start ∧
        machine.acceptStates = .ofList acceptStates) ∧
      machine.WellFormed ∧
      (∀ transition ∈ machine.table.transitions,
        transition ∈ machine.table.row transition.source ∧ machine.Admits transition) ∧
      ∀ budget word trace,
        machine.run budget word = .ok trace →
        (∀ snapshot ∈ trace.snapshots, machine.CoversSnapshot snapshot) ∧
          ((∃ symbol ∈ word, symbol = .epsilon ∨ symbol ∉ machine.terminals) →
            trace.rejected = true) := by
  subst reached
  have wellFormed := ((Built.declare declared).edited edits).wellFormed
  have same := fresh.sameDeclaration_edited edits
  obtain ⟨_, _, _, rfl⟩ := declare_eq_ok_iff.mp declared
  refine ⟨⟨?_, same.terminals, same.nonterminals, same.start, same.acceptStates⟩, wellFormed,
    fun _ inTable => wellFormed.mem_row_source inTable, ?_⟩
  · exact same.stateCount.trans (Table.stateCount_empty states)
  · intro budget word trace returned
    refine ⟨wellFormed.coversSnapshot_of_runWithin returned, ?_⟩
    rintro ⟨symbol, member, foreign⟩
    rw [← Bool.not_eq_false]
    intro notRejected
    obtain ⟨readsSomething, isDeclared⟩ :=
      wellFormed.declared_of_not_rejected returned notRejected symbol member
    exact foreign.elim readsSomething (fun undeclared => undeclared isDeclared)

/-- Two of four additions are refused; a marker is popped through a wildcard, and `ε` is not read. -/
theorem edited_runs_covered_lookahead :
    ∃ fresh machine trace other,
      declare 2 0 [⟨"a"⟩, ⟨"b"⟩] [] [1] = .ok fresh ∧
        fresh.edited
            [ .addTransition ⟨0, ⟨"a"⟩, [], 0, [.state (.id 1), .lookahead ⟨"b"⟩], []⟩,
              .addTransition ⟨0, ⟨"b"⟩, [], 1, [.wildcard], []⟩,
              .withStepLimit 9,
              .addTransition ⟨0, ⟨"b"⟩, [.wildcard, .lookahead ⟨"b"⟩], 1, [], []⟩,
              .addTransition ⟨0, ⟨"b"⟩, [.state (.id 0)], 0, [], []⟩ ] = machine ∧
        machine.table.size = 2 ∧
        machine.run 0 [⟨"a"⟩, ⟨"b"⟩] = .ok trace ∧
        trace.isAccepted = true ∧
        (∀ snapshot ∈ trace.snapshots, machine.CoversSnapshot snapshot) ∧
        machine.run 0 [⟨"a"⟩, .epsilon] = .ok other ∧
        other.rejected = true := by
  let push : Transition := ⟨0, ⟨"a"⟩, [], 0, [.state (.id 1), .lookahead ⟨"b"⟩], []⟩
  let faulty : Transition := ⟨0, ⟨"b"⟩, [], 1, [.wildcard], []⟩
  let pop : Transition := ⟨0, ⟨"b"⟩, [.wildcard, .lookahead ⟨"b"⟩], 1, [], []⟩
  let ambiguous : Transition := ⟨0, ⟨"b"⟩, [.state (.id 0)], 0, [], []⟩
  let edits : List Edit :=
    [ .addTransition push, .addTransition faulty, .withStepLimit 9, .addTransition pop,
      .addTransition ambiguous ]
  obtain ⟨fresh, declared, passed⟩ := Except.exists_eq_ok_of_any
    (declare 2 0 [⟨"a"⟩, ⟨"b"⟩] [] [1])
    (fun fresh =>
      (fresh.edited edits).table.size == 2 &&
        ((fresh.edited edits).run 0 [⟨"a"⟩, ⟨"b"⟩]).toOption.any (·.isAccepted) &&
        ((fresh.edited edits).run 0 [⟨"a"⟩, .epsilon]).toOption.any fun _ => true)
    (by cbv)
  simp only [Bool.and_eq_true, beq_iff_eq] at passed
  obtain ⟨⟨twoAdded, passedWord⟩, passedOther⟩ := passed
  obtain ⟨trace, returned, accepted⟩ := Except.exists_eq_ok_of_any _ _ passedWord
  obtain ⟨other, otherReturned, _⟩ := Except.exists_eq_ok_of_any _ _ passedOther
  have reached : fresh.edited edits = fresh.edited edits := rfl
  obtain ⟨_, _, _, runs⟩ := edited_wellFormed_and_runs_covered declared reached
  exact ⟨fresh, fresh.edited edits, trace, other, declared, rfl, twoAdded, returned, accepted,
    (runs 0 _ trace returned).1, otherReturned,
    (runs 0 _ other otherReturned).2 ⟨.epsilon, by simp, .inl rfl⟩⟩

end Automaton

end Pushdown
