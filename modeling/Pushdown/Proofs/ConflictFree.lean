import Pushdown.Proofs.PrioritisedRun

namespace Pushdown

/-!
# Rows without conflicts

Precedence decides something only beside a transition without a pattern.  If every
such transition reads a terminal that no other one of its row reads, and none of
them reads nothing, then wherever a run gets at most one transition applies.  The
automaton is then a deterministic one in the usual sense: it accepts the words
that can be accepted by taking any transition that applies.
-/

namespace StackToken

/-- A pattern overlaps itself. -/
theorem overlap_self
    (pattern : List StackToken) :
    overlap pattern pattern = true := by
  induction pattern with
  | nil => rfl
  | cons token rest inductionHypothesis =>
      simp only [overlap, Bool.and_eq_true]
      exact ⟨agrees_iff.mpr (.inl rfl), inductionHypothesis⟩

end StackToken

namespace Transition

/-- No transition may be added twice. -/
theorem not_compatible_self
    (transition : Transition) :
    ¬ transition.Compatible transition := by
  intro compatible
  by_cases noTokens : transition.pattern = []
  · exact compatible_iff.mp compatible (.inl ⟨noTokens, noTokens, rfl⟩)
  · have inputs := compatible.inputs_differ noTokens noTokens
      (StackToken.overlap_self transition.pattern)
    exact inputs.1 rfl

/-- Both transitions read a terminal, and not the same one. -/
def ReadApart
    (first second : Transition) :
    Prop :=
  first.input ≠ second.input ∧ first.input ≠ .epsilon ∧ second.input ≠ .epsilon

instance (first second : Transition) : Decidable (first.ReadApart second) :=
  inferInstanceAs (Decidable (_ ∧ _ ∧ _))

theorem ReadApart.symm
    {first second : Transition}
    (apart : first.ReadApart second) :
    second.ReadApart first :=
  ⟨apart.1.symm, apart.2.2, apart.2.1⟩

/-- There is only one next terminal, so transitions that read apart do not apply together. -/
theorem ReadApart.not_applies
    {first second : Transition}
    (apart : first.ReadApart second)
    {next? : Option Terminal}
    {stack : Stack}
    (applies : first.Applies next? stack) :
    ¬ second.Applies next? stack := by
  intro otherApplies
  have isNext := applies.input.resolve_left apart.2.1
  have otherIsNext := otherApplies.input.resolve_left apart.2.2
  exact apart.1 (Option.some.inj (isNext.symm.trans otherIsNext))

end Transition

namespace Automaton

/-- A transition without a pattern and any other one of its row read apart. -/
def ConflictFree
    (machine : Automaton) :
    Prop :=
  ∀ state,
    ∀ first ∈ machine.table.row state,
      first.pattern = [] →
      ∀ second ∈ machine.table.row state,
        second ≠ first →
        first.ReadApart second

/-- It is enough to compare the transitions of the table that have one source. -/
theorem WellFormed.conflictFree
    {machine : Automaton}
    (wellFormed : machine.WellFormed)
    (apart :
      ∀ first ∈ machine.table.transitions,
        first.pattern = [] →
        ∀ second ∈ machine.table.transitions,
          second.source = first.source →
          second ≠ first →
          first.ReadApart second) :
    machine.ConflictFree := by
  intro state first firstInRow noTokens second secondInRow
  refine apart first (Table.mem_transitions_of_mem_row firstInRow) noTokens
    second (Table.mem_transitions_of_mem_row secondInRow) ?_
  rw [wellFormed.sourceOfRow firstInRow, wellFormed.sourceOfRow secondInRow]

/-! ## At most one transition applies -/

/-- No transition stands twice in a row. -/
theorem WellFormed.row_nodup
    {machine : Automaton}
    (wellFormed : machine.WellFormed)
    (state : Nat) :
    (machine.table.row state).Nodup := by
  refine (wellFormed.compatible state).imp ?_
  rintro first _ compatible rfl
  exact first.not_compatible_self compatible

/-- On a stack without wildcards two transitions that apply are the same. -/
theorem WellFormed.eq_of_applies
    {machine : Automaton}
    (wellFormed : machine.WellFormed)
    (conflictFree : machine.ConflictFree)
    {state : Nat}
    {next? : Option Terminal}
    {stack : Stack}
    (concrete : stack.WildcardFree)
    {first second : Transition}
    (firstInRow : first ∈ machine.table.row state)
    (secondInRow : second ∈ machine.table.row state)
    (firstApplies : first.Applies next? stack)
    (secondApplies : second.Applies next? stack) :
    first = second := by
  refine Decidable.byContradiction fun differ => ?_
  have apart : first.ReadApart second := by
    by_cases firstNoTokens : first.pattern = []
    · exact conflictFree state first firstInRow firstNoTokens second secondInRow (Ne.symm differ)
    · by_cases secondNoTokens : second.pattern = []
      · exact (conflictFree state second secondInRow secondNoTokens
          first firstInRow differ).symm
      · -- Patterns with tokens overlap on the stack, so the check on additions has told them apart.
        have fit := (wellFormed.compatible state).forall firstInRow secondInRow differ
        exact fit.inputs_differ firstNoTokens secondNoTokens
          (firstApplies.pattern.overlap secondApplies.pattern concrete)
  exact apart.not_applies firstApplies secondApplies

/-- What applies is chosen, because nothing else applies. -/
theorem WellFormed.choose?_eq_some_iff_applies
    {machine : Automaton}
    (wellFormed : machine.WellFormed)
    (conflictFree : machine.ConflictFree)
    {configuration : Configuration}
    (concrete : configuration.stack.WildcardFree)
    {choice : Choice} :
    machine.choose? configuration = some choice ↔
      choice.consumed = choice.transition.input ∧
        choice.transition ∈ machine.table.row configuration.state ∧
        choice.transition.Applies configuration.unread.head? configuration.stack := by
  rw [choose?, wellFormed.select?_eq_some_iff concrete, preferred_iff_foremost]
  refine and_congr_right fun _ => ⟨fun foremost => ⟨foremost.inRow, foremost.applies⟩, ?_⟩
  rintro ⟨inRow, applies⟩
  refine ⟨inRow, applies, ?_⟩
  intro other otherInRow otherApplies
  rw [wellFormed.eq_of_applies conflictFree concrete inRow otherInRow applies otherApplies]

/-! ## Steps without precedence -/

/-- A transition of the row that applies is taken, whichever it is. -/
structure Takes
    (machine : Automaton)
    (before : Configuration)
    (transition : Transition)
    (after : Configuration) :
    Prop where
  inRow :
    transition ∈ machine.table.row before.state
  applies :
    transition.Applies before.unread.head? before.stack
  nextState :
    after.state = transition.target
  nextUnread :
    after.unread = if transition.input = .epsilon then before.unread else before.unread.tail
  nextStack :
    after.stack.toList =
      transition.replacement ++ before.stack.toList.drop transition.pattern.length

/-- Transitions taken one after the other, none of them where a run is done. -/
inductive FreePath
    (machine : Automaton) :
    Configuration → List Transition → Configuration → Prop where
  | nil (configuration : Configuration) :
      FreePath machine configuration [] configuration
  | cons
      {before after last : Configuration}
      {transition : Transition}
      {transitions : List Transition} :
      (before.unread ≠ [] ∨ 1 < before.stack.depth) →
      machine.Takes before transition after →
      FreePath machine after transitions last →
      FreePath machine before (transition :: transitions) last

/-- Some transitions, at least one, lead to where the word is read and the state accepts. -/
def AcceptsFreely
    (machine : Automaton)
    (word : List Terminal) :
    Prop :=
  ∃ transitions last,
    transitions ≠ [] ∧
      machine.FreePath ⟨machine.start, word, .empty⟩ transitions last ∧
      last.unread = [] ∧
      last.stack.depth ≤ 1 ∧
      last.state ∈ machine.acceptStates

/-- Taking a transition leads where following it as a choice does. -/
theorem takes_iff
    {machine : Automaton}
    {before after : Configuration}
    {transition : Transition} :
    machine.Takes before transition after ↔
      transition ∈ machine.table.row before.state ∧
        transition.Applies before.unread.head? before.stack ∧
        after = before.follow ⟨transition.input, transition⟩ := by
  constructor
  · intro takes
    refine ⟨takes.inRow, takes.applies, ?_⟩
    have sameStack : after.stack = before.stack.apply transition := by
      apply Stack.ext_toList
      rw [takes.nextStack, Stack.apply, Stack.toList_replaceTop]
    obtain ⟨state, unread, stack⟩ := after
    simp only [Configuration.follow, ← takes.nextState, ← sameStack, Configuration.mk.injEq,
      true_and, and_true]
    simpa using takes.nextUnread
  · rintro ⟨inRow, applies, rfl⟩
    exact {
      inRow := inRow
      applies := applies
      nextState := rfl
      nextUnread := by simp [Configuration.follow]
      nextStack := Stack.toList_replaceTop ..
    }

/-- On a stack without wildcards the transition that is taken is the one that is chosen. -/
theorem WellFormed.takes_iff_choose?
    {machine : Automaton}
    (wellFormed : machine.WellFormed)
    (conflictFree : machine.ConflictFree)
    {before after : Configuration}
    {transition : Transition}
    (concrete : before.stack.WildcardFree) :
    machine.Takes before transition after ↔
      machine.choose? before = some ⟨transition.input, transition⟩ ∧
        after = before.follow ⟨transition.input, transition⟩ := by
  rw [takes_iff, wellFormed.choose?_eq_some_iff_applies conflictFree concrete]
  simp only [true_and, and_assoc]

/-- From a stack without wildcards the free paths are the paths of the choices. -/
theorem WellFormed.freePath_iff
    {machine : Automaton}
    (wellFormed : machine.WellFormed)
    (conflictFree : machine.ConflictFree)
    {first last : Configuration}
    {transitions : List Transition}
    (concrete : first.stack.WildcardFree) :
    machine.FreePath first transitions last ↔
      ∃ snapshots,
        machine.Path first snapshots last ∧ snapshots.map (·.transition) = transitions := by
  constructor
  · intro path
    induction path with
    | nil configuration => exact ⟨[], .nil configuration, rfl⟩
    | @cons before after last transition transitions busy takes _ inductionHypothesis =>
        obtain ⟨chosen, rfl⟩ := (wellFormed.takes_iff_choose? conflictFree concrete).mp takes
        obtain ⟨snapshots, path, rfl⟩ :=
          inductionHypothesis (wellFormed.wildcardFree_follow concrete chosen)
        exact ⟨_, .cons (Configuration.isDone_eq_false_iff.mpr busy) chosen path, rfl⟩
  · rintro ⟨snapshots, path, rfl⟩
    induction path with
    | nil configuration => exact .nil configuration
    | @cons configuration last choice snapshots busy chosen _ inductionHypothesis =>
        obtain ⟨_, sameInput, _⟩ := mem_row_of_select? chosen
        have sameChoice : choice = ⟨choice.transition.input, choice.transition⟩ := by
          rw [sameInput]
        have takes : machine.Takes configuration choice.transition
            (configuration.follow choice) := by
          rw [wellFormed.takes_iff_choose? conflictFree concrete, ← sameChoice]
          exact ⟨chosen, rfl⟩
        exact .cons (Configuration.isDone_eq_false_iff.mp busy) takes
          (inductionHypothesis (wellFormed.wildcardFree_follow concrete chosen))

/-! ## Accepted runs -/

/-- The last step of a path records whether the path ends in an accepting state. -/
theorem Path.accepting_eq
    {machine : Automaton}
    {first last : Configuration}
    {snapshots : List Snapshot}
    (path : machine.Path first snapshots last)
    {final : Snapshot}
    (isFinal : snapshots.getLast? = some final) :
    final.accepting = machine.isAccepting last.state := by
  induction path with
  | nil configuration => simp at isFinal
  | @cons configuration last choice snapshots busy chosen rest inductionHypothesis =>
      cases rest with
      | nil configuration =>
          cases isFinal
          rfl
      | cons busy chosen rest =>
          rw [List.getLast?_cons_cons] at isFinal
          exact inductionHypothesis isFinal

/-- A run is accepted if its path has a step and ends, done, in an accepting state. -/
theorem exists_isAccepted_iff
    {machine : Automaton}
    {limit : Nat}
    {word : List Terminal} :
    (∃ trace, machine.runWithin limit word = .ok trace ∧ trace.isAccepted = true) ↔
      ∃ snapshots last,
        machine.Path (machine.initial word) snapshots last ∧
          snapshots.length ≤ limit ∧
          snapshots ≠ [] ∧
          last.isDone = true ∧
          last.state ∈ machine.acceptStates := by
  constructor
  · rintro ⟨trace, returned, accepted⟩
    generalize sameRun : machine.history limit word = run at returned
    obtain ⟨snapshots, last, ending⟩ := run
    obtain ⟨path, within, halts⟩ := history_eq_iff.mp sameRun
    rw [runWithin, sameRun] at returned
    rcases Run.outcome_eq_ok_iff.mp returned with ⟨rfl, rfl⟩ | ⟨_, rfl⟩
    · obtain ⟨marker, isMarker, _, _⟩ := Run.exists_marker?_eq_some accepted
      obtain ⟨final, isFinal, accepting, _⟩ := Run.marker?_eq_some_iff.mp isMarker
      have inAccepting : last.state ∈ machine.acceptStates := by
        rw [path.accepting_eq isFinal, isAccepting, decide_eq_true_iff] at accepting
        exact accepting
      refine ⟨snapshots, last, path, within, ?_, ?_, inAccepting⟩
      · rintro rfl
        simp at isFinal
      · cases halts with
        | finished done => exact done
    · simp [Trace.isAccepted] at accepted
  · rintro ⟨snapshots, last, path, within, steps, done, inAccepting⟩
    let run : Run := ⟨snapshots, last, .finished⟩
    have halts : machine.Halts (limit - snapshots.length) last .finished := .finished done
    have sameRun : machine.history limit word = run := history_eq_iff.mpr ⟨path, within, halts⟩
    have isFinal := List.getLast?_eq_some_getLast steps
    have accepting : (snapshots.getLast steps).accepting = true := by
      rw [path.accepting_eq isFinal, isAccepting, decide_eq_true_iff]
      exact inAccepting
    have marked : run.marker? ≠ none := by
      rw [Ne, Run.marker?_eq_none_iff]
      intro notAccepting
      rw [notAccepting _ isFinal] at accepting
      contradiction
    obtain ⟨marker, isMarker⟩ := Option.ne_none_iff_exists'.mp marked
    obtain ⟨_, _, _, shown⟩ := Run.marker?_eq_some_iff.mp isMarker
    refine ⟨⟨snapshots ++ run.marker?.toList, false⟩, ?_, ?_⟩
    · rw [runWithin, sameRun, Run.outcome_eq_ok_iff]
      exact .inl ⟨rfl, rfl⟩
    · simp [Trace.isAccepted, isMarker, shown]

/-- Any transition that applies may be taken: the words accepted in this way are those of the runs. -/
theorem WellFormed.acceptsFreely_iff
    {machine : Automaton}
    (wellFormed : machine.WellFormed)
    (conflictFree : machine.ConflictFree)
    {word : List Terminal} :
    machine.AcceptsFreely word ↔
      ∃ limit trace, machine.runWithin limit word = .ok trace ∧ trace.isAccepted = true := by
  simp only [exists_isAccepted_iff]
  have free_iff : ∀ {transitions last},
      machine.FreePath (machine.initial word) transitions last ↔ _ :=
    wellFormed.freePath_iff conflictFree (machine.initial_wildcardFree word)
  constructor
  · rintro ⟨transitions, last, steps, free, allRead, shallow, inAccepting⟩
    obtain ⟨snapshots, path, rfl⟩ := free_iff.mp free
    exact ⟨snapshots.length, snapshots, last, path, Nat.le_refl _,
      fun noSteps => steps (by rw [noSteps, List.map_nil]),
      Configuration.isDone_iff.mpr ⟨allRead, shallow⟩, inAccepting⟩
  · rintro ⟨_, snapshots, last, path, _, steps, done, inAccepting⟩
    obtain ⟨allRead, shallow⟩ := Configuration.isDone_iff.mp done
    exact ⟨_, last, fun noSteps => steps (List.map_eq_nil_iff.mp noSteps),
      free_iff.mpr ⟨snapshots, path, rfl⟩, allRead, shallow, inAccepting⟩

/--
Without conflicts at most one transition applies wherever a run gets.  The words
that are accepted by taking any transition that applies are those that the run
accepts without a limit, and under every limit that is large enough; no limit lets
it accept another word.
-/
theorem Built.run_isAccepted_iff_acceptsFreely
    {machine : Automaton}
    (built : machine.Built)
    (conflictFree : machine.ConflictFree)
    (word : List Terminal) :
    (∀ snapshots configuration,
        machine.Path (machine.initial word) snapshots configuration →
        ∀ (index other : Nat) (first second : Transition),
          (machine.table.row configuration.state)[index]? = some first →
          (machine.table.row configuration.state)[other]? = some second →
          first.Applies configuration.unread.head? configuration.stack →
          second.Applies configuration.unread.head? configuration.stack →
          index = other) ∧
      ((∃ trace,
          trace.isAccepted = true ∧
            ∃ bound,
              (∀ limit budget,
                bound ≤ limit →
                (machine.withStepLimit limit).run budget word = .ok trace) ∧
              ∀ budget,
                bound ≤ budget →
                { machine with stepLimit := none }.run budget word = .ok trace) ↔
        machine.AcceptsFreely word) ∧
      ∀ stepLimit budget trace,
        { machine with stepLimit := stepLimit }.run budget word = .ok trace →
        trace.isAccepted = true →
        machine.AcceptsFreely word := by
  have wellFormed := built.wellFormed
  have freely_iff :
      machine.AcceptsFreely word ↔
        ∃ limit trace, machine.runWithin limit word = .ok trace ∧ trace.isAccepted = true :=
    wellFormed.acceptsFreely_iff conflictFree
  refine ⟨?_, ⟨?_, ?_⟩, ?_⟩
  · intro snapshots configuration path index other first second atIndex atOther
      firstApplies secondApplies
    have concrete :=
      path.invariant wellFormed.wildcardFree_follow (machine.initial_wildcardFree word)
    have same := wellFormed.eq_of_applies conflictFree concrete
      (List.mem_of_getElem? atIndex) (List.mem_of_getElem? atOther) firstApplies secondApplies
    have inside := (List.getElem?_eq_some_iff.mp atIndex).1
    have rowNodup := wellFormed.row_nodup configuration.state
    exact (List.getElem?_inj inside rowNodup).mp (atIndex.trans (same ▸ atOther.symm))
  · rintro ⟨trace, accepted, bound, _, returned⟩
    have unlimited := returned bound (Nat.le_refl bound)
    rw [run, runWithin_stepLimit] at unlimited
    exact freely_iff.mpr ⟨_, trace, unlimited, accepted⟩
  · intro freely
    obtain ⟨bound, trace, returned, accepted⟩ := freely_iff.mp freely
    refine ⟨trace, accepted, bound, ?_, ?_⟩
    · intro limit budget enough
      rw [run, Automaton.withStepLimit, runWithin_stepLimit]
      exact runWithin_eq_of_le returned enough
    · intro budget enough
      rw [run, runWithin_stepLimit]
      exact runWithin_eq_of_le returned enough
  · intro stepLimit budget trace returned accepted
    rw [run, runWithin_stepLimit] at returned
    exact freely_iff.mpr ⟨_, trace, returned, accepted⟩

/-- A first step that reads nothing, then a terminal that is pushed under a marker and matched. -/
theorem acceptsFreely_marked_pair :
    ∃ machine trace,
      assemble 4 3 [⟨"a"⟩, ⟨"b"⟩, ⟨"$"⟩] [] [2]
          [ ⟨3, .epsilon, [], 0, [], []⟩,
            ⟨0, ⟨"b"⟩, [.wildcard, .terminal ⟨"a"⟩], 1, [], []⟩,
            ⟨0, ⟨"a"⟩, [], 0, [.state (.id 0), .terminal ⟨"a"⟩], []⟩,
            ⟨1, ⟨"$"⟩, [], 2, [.terminal ⟨"$"⟩], []⟩ ] = .ok machine ∧
        machine.ConflictFree ∧
        { machine with stepLimit := none }.run 9 [⟨"a"⟩, ⟨"b"⟩, ⟨"$"⟩] = .ok trace ∧
        trace.isAccepted = true ∧
        machine.AcceptsFreely [⟨"a"⟩, ⟨"b"⟩, ⟨"$"⟩] ∧
        ¬ machine.AcceptsFreely [⟨"a"⟩, ⟨"$"⟩] := by
  let start : Transition := ⟨3, .epsilon, [], 0, [], []⟩
  let pop : Transition := ⟨0, ⟨"b"⟩, [.wildcard, .terminal ⟨"a"⟩], 1, [], []⟩
  let push : Transition := ⟨0, ⟨"a"⟩, [], 0, [.state (.id 0), .terminal ⟨"a"⟩], []⟩
  let finish : Transition := ⟨1, ⟨"$"⟩, [], 2, [.terminal ⟨"$"⟩], []⟩
  obtain ⟨machine, assembled, passed⟩ := Except.exists_eq_ok_of_any
    (assemble 4 3 [⟨"a"⟩, ⟨"b"⟩, ⟨"$"⟩] [] [2] [start, pop, push, finish])
    (fun machine =>
      machine.table.transitions == [pop, push, finish, start] &&
        (machine.runWithin 9 [⟨"a"⟩, ⟨"b"⟩, ⟨"$"⟩]).toOption.any (·.isAccepted) &&
        (machine.runWithin 9 [⟨"a"⟩, ⟨"$"⟩]).toOption.any (·.rejected))
    (by cbv)
  simp only [Bool.and_eq_true, beq_iff_eq] at passed
  obtain ⟨⟨inTable, passedWord⟩, passedOther⟩ := passed
  have built := Built.assemble assembled
  have conflictFree : machine.ConflictFree := by
    apply built.wellFormed.conflictFree
    rw [inTable]
    decide
  obtain ⟨trace, reached, accepted⟩ := Except.exists_eq_ok_of_any _ _ passedWord
  have returned :
      { machine with stepLimit := none }.run 9 [⟨"a"⟩, ⟨"b"⟩, ⟨"$"⟩] = .ok trace := by
    rw [run, runWithin_stepLimit]
    exact reached
  obtain ⟨rejected, otherReturned, isRejected⟩ := Except.exists_eq_ok_of_any _ _ passedOther
  obtain ⟨_, _, soundWord⟩ :=
    built.run_isAccepted_iff_acceptsFreely conflictFree [⟨"a"⟩, ⟨"b"⟩, ⟨"$"⟩]
  obtain ⟨_, other_iff, _⟩ :=
    built.run_isAccepted_iff_acceptsFreely conflictFree [⟨"a"⟩, ⟨"$"⟩]
  refine ⟨machine, trace, assembled, conflictFree, returned, accepted,
    soundWord none 9 trace returned accepted, ?_⟩
  intro freely
  obtain ⟨otherTrace, otherAccepted, bound, _, unlimited⟩ := other_iff.mpr freely
  have late := unlimited (bound + 9) (Nat.le_add_right bound 9)
  rw [run, runWithin_stepLimit] at late
  have stays := runWithin_eq_of_le otherReturned (Nat.le_add_left 9 bound)
  have same : otherTrace = rejected := Except.ok.inj (late.symm.trans stays)
  rw [← same, Trace.rejected_eq_false otherAccepted] at isRejected
  contradiction

end Automaton

end Pushdown
