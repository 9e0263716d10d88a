import Pushdown.Proofs.Path

namespace Pushdown

/-!
# How many transitions a lookup may find

Transitions of one row that read the same are told apart by their patterns if both of
these are empty, or both have tokens.  An empty pattern is at the top of every stack,
though, and is never compared with one that has tokens.  So a lookup at the top of the
stack may find two transitions, one of each kind, and which of them comes first is a
matter of their order in the row.  A run never gets there: the transition with the
empty pattern is found by an earlier lookup, so what a run takes is always the only
candidate of the lookup that finds it.
-/

namespace Table

/-- The candidates at the top of the stack whose patterns have tokens. -/
def deepCandidates
    (table : Table)
    (state : Nat)
    (input : Terminal)
    (stack : Stack) :
    List Transition :=
  (table.candidates state input stack .topOfStack).filter fun transition =>
    !transition.pattern.isEmpty

/-- Two transitions of a state read the same, one of them with an empty pattern, one at the top. -/
def MixesAt
    (table : Table)
    (state : Nat)
    (input : Terminal)
    (stack : Stack) :
    Prop :=
  ∃ plain ∈ table.row state, ∃ deep ∈ table.row state,
    plain.input = input ∧
      deep.input = input ∧
      plain.pattern = [] ∧
      deep.pattern ≠ [] ∧
      stack.startsWith deep.pattern = true

variable
  {table : Table}
  {state : Nat}
  {input : Terminal}
  {stack : Stack}

theorem mem_candidates_emptyPattern_iff
    {transition : Transition} :
    transition ∈ table.candidates state input stack .emptyPattern ↔
      transition ∈ table.row state ∧
        transition.input = input ∧
        transition.pattern = [] := by
  rw [candidates, List.mem_filter, Transition.answers_emptyPattern_iff]

theorem mem_deepCandidates_iff
    {transition : Transition} :
    transition ∈ table.deepCandidates state input stack ↔
      transition ∈ table.row state ∧
        transition.input = input ∧
        transition.pattern ≠ [] ∧
        stack.startsWith transition.pattern = true := by
  simp only [deepCandidates, candidates, List.mem_filter, Transition.answers_topOfStack_iff,
    Bool.not_eq_true', List.isEmpty_eq_false_iff]
  tauto

/-- An empty pattern is at the top of every stack. -/
theorem candidates_emptyPattern_eq :
    table.candidates state input stack .emptyPattern =
      (table.candidates state input stack .topOfStack).filter fun transition =>
        transition.pattern.isEmpty := by
  rw [candidates, candidates, List.filter_filter]
  refine List.filter_congr fun transition _ => ?_
  rw [Bool.eq_iff_iff, Bool.and_eq_true, Transition.answers_emptyPattern_iff,
    Transition.answers_topOfStack_iff, List.isEmpty_iff]
  constructor
  · rintro ⟨readsInput, noTokens⟩
    refine ⟨noTokens, readsInput, ?_⟩
    rw [noTokens, Stack.startsWith_iff]
    exact .nil _
  · rintro ⟨noTokens, readsInput, _⟩
    exact ⟨readsInput, noTokens⟩

/-- At the top of the stack are the candidates with empty patterns and those with tokens. -/
theorem length_candidates_topOfStack :
    (table.candidates state input stack .topOfStack).length =
      (table.candidates state input stack .emptyPattern).length +
        (table.deepCandidates state input stack).length := by
  rw [candidates_emptyPattern_eq, deepCandidates]
  exact List.length_eq_length_filter_add _

theorem mixesAt_iff :
    table.MixesAt state input stack ↔
      0 < (table.candidates state input stack .emptyPattern).length ∧
        0 < (table.deepCandidates state input stack).length := by
  simp only [List.length_pos_iff_exists_mem, mem_candidates_emptyPattern_iff,
    mem_deepCandidates_iff]
  constructor
  · rintro ⟨plain, plainInRow, deep, deepInRow, plainReads, deepReads, noTokens, tokens, atTop⟩
    exact ⟨⟨plain, plainInRow, plainReads, noTokens⟩, ⟨deep, deepInRow, deepReads, tokens, atTop⟩⟩
  · rintro ⟨⟨plain, plainInRow, plainReads, noTokens⟩, ⟨deep, deepInRow, deepReads, tokens, atTop⟩⟩
    exact ⟨plain, plainInRow, deep, deepInRow, plainReads, deepReads, noTokens, tokens, atTop⟩

end Table

namespace Transition

/-- Of transitions that fit beside each other, no two of which do, there is at most one. -/
theorem length_le_one_of_clash
    {transitions : List Transition}
    (compatible : transitions.Pairwise Compatible)
    (clash :
      ∀ first ∈ transitions, ∀ second ∈ transitions, ¬ first.Compatible second) :
    transitions.length ≤ 1 := by
  match transitions with
  | [] => exact Nat.zero_le 1
  | [_] => exact Nat.le_refl 1
  | first :: second :: rest =>
      have fit : first.Compatible second :=
        (List.pairwise_cons.mp compatible).1 second List.mem_cons_self
      exact (clash first List.mem_cons_self second (by simp) fit).elim

end Transition

namespace Automaton

section

variable
  {machine : Automaton}
  (wellFormed : machine.WellFormed)
  {state : Nat}
  {input : Terminal}
  {stack : Stack}

include wellFormed

/-- Empty patterns with the same input are not allowed beside each other. -/
theorem WellFormed.length_candidates_emptyPattern_le :
    (machine.table.candidates state input stack .emptyPattern).length ≤ 1 := by
  refine Transition.length_le_one_of_clash ((wellFormed.compatible state).filter _) ?_
  intro first firstMember second secondMember fit
  obtain ⟨_, firstReads, firstEmpty⟩ := Table.mem_candidates_emptyPattern_iff.mp firstMember
  obtain ⟨_, secondReads, secondEmpty⟩ := Table.mem_candidates_emptyPattern_iff.mp secondMember
  exact Transition.compatible_iff.mp fit
    (.inl ⟨firstEmpty, secondEmpty, firstReads.trans secondReads.symm⟩)

/-- Patterns with tokens at the top of one stack overlap, so their inputs differ. -/
theorem WellFormed.length_deepCandidates_le
    (concrete : stack.WildcardFree) :
    (machine.table.deepCandidates state input stack).length ≤ 1 := by
  refine Transition.length_le_one_of_clash
    (((wellFormed.compatible state).filter _).filter _) ?_
  intro first firstMember second secondMember fit
  obtain ⟨_, firstReads, firstTokens, firstAtTop⟩ :=
    Table.mem_deepCandidates_iff.mp firstMember
  obtain ⟨_, secondReads, secondTokens, secondAtTop⟩ :=
    Table.mem_deepCandidates_iff.mp secondMember
  have inputs := fit.inputs_differ firstTokens secondTokens
    (concrete.overlap firstAtTop secondAtTop)
  exact inputs.1 (firstReads.trans secondReads.symm)

/-- There is a second candidate exactly at the top of a stack where the two kinds meet. -/
theorem WellFormed.length_candidates_le_one_iff
    (concrete : stack.WildcardFree)
    (mode : PatternMode) :
    (machine.table.candidates state input stack mode).length ≤ 1 ↔
      ¬ (mode = .topOfStack ∧ machine.table.MixesAt state input stack) := by
  have emptyBound : (machine.table.candidates state input stack .emptyPattern).length ≤ 1 :=
    wellFormed.length_candidates_emptyPattern_le
  have deepBound : (machine.table.deepCandidates state input stack).length ≤ 1 :=
    wellFormed.length_deepCandidates_le concrete
  cases mode with
  | emptyPattern => simp [emptyBound]
  | topOfStack =>
      rw [Table.length_candidates_topOfStack, Table.mixesAt_iff]
      simp only [true_and]
      omega

theorem WellFormed.length_candidates_le_two
    (concrete : stack.WildcardFree)
    (mode : PatternMode) :
    (machine.table.candidates state input stack mode).length ≤ 2 := by
  have emptyBound : (machine.table.candidates state input stack .emptyPattern).length ≤ 1 :=
    wellFormed.length_candidates_emptyPattern_le
  have deepBound : (machine.table.deepCandidates state input stack).length ≤ 1 :=
    wellFormed.length_deepCandidates_le concrete
  cases mode with
  | emptyPattern => omega
  | topOfStack =>
      rw [Table.length_candidates_topOfStack]
      omega

/-- What is chosen is the only candidate of its lookup, and the lookups before it have none. -/
theorem WellFormed.candidates_of_select?
    (concrete : stack.WildcardFree)
    {next? : Option Terminal}
    {choice : Choice}
    (chosen : machine.select? state next? stack = some choice) :
    ∃ earlier mode later,
      probes next? = earlier ++ (choice.consumed, mode) :: later ∧
        (∀ probe ∈ earlier,
          machine.table.candidates state probe.1 stack probe.2 = []) ∧
        machine.table.candidates state choice.consumed stack mode = [choice.transition] := by
  obtain ⟨earlier, mode, later, split, inRow, answers, notEarlier⟩ :=
    preferred_of_select? chosen
  have noneEarlier : ∀ probe ∈ earlier,
      machine.table.candidates state probe.1 stack probe.2 = [] := by
    intro probe isEarlier
    rw [Table.candidates, List.filter_eq_nil_iff]
    intro transition member
    simp [notEarlier probe isEarlier transition member]
  have notMixed :
      ¬ (mode = .topOfStack ∧ machine.table.MixesAt state choice.consumed stack) := by
    rintro ⟨rfl, mixes⟩
    -- The candidate with the empty pattern would have been found by the lookup before this one.
    rcases probes_split split with ⟨isEmptyPattern, _⟩ | ⟨_, emptyPatternEarlier, _⟩
    · contradiction
    · have found := (Table.mixesAt_iff.mp mixes).1
      simp [noneEarlier _ emptyPatternEarlier] at found
  have single := (wellFormed.length_candidates_le_one_iff concrete mode).mpr notMixed
  have member : choice.transition ∈
      machine.table.candidates state choice.consumed stack mode :=
    List.mem_filter.mpr ⟨inRow, answers⟩
  refine ⟨earlier, mode, later, split, noneEarlier, ?_⟩
  have atLeastOne := List.length_pos_of_mem member
  obtain ⟨only, isOnly⟩ := List.length_eq_one_iff.mp (Nat.le_antisymm single atLeastOne)
  rw [isOnly, List.mem_singleton] at member
  rw [isOnly, member]

end

/-! ## Along a run -/

/-- At each snapshot of a trace, a lookup for nothing or for what is read next finds at most one. -/
def SingleCandidates
    (machine : Automaton)
    (word : List Terminal) :
    Prop :=
  ∀ budget trace earlier snapshot later stack input mode,
    machine.run budget word = .ok trace →
    trace.snapshots = earlier ++ snapshot :: later →
    stack.toList = snapshot.stack →
    (input, mode) ∈ probes (word.drop (consumedBy earlier).length).head? →
    (machine.table.candidates snapshot.state input stack mode).length ≤ 1

/-- Stacks with the view of a snapshot hold no wildcards. -/
theorem WellFormed.wildcardFree_of_snapshot
    {machine : Automaton}
    (wellFormed : machine.WellFormed)
    {limit : Nat}
    {word : List Terminal}
    {trace : Trace}
    (returned : machine.runWithin limit word = .ok trace)
    {earlier later : List Snapshot}
    {snapshot : Snapshot}
    (shape : trace.snapshots = earlier ++ snapshot :: later)
    {stack : Stack}
    (view : stack.toList = snapshot.stack) :
    stack.WildcardFree := by
  obtain ⟨here, path, _, sameStack, _⟩ := exists_path_of_snapshot returned shape
  have concrete := wellFormed.wildcardFree_of_path path
  rwa [Stack.WildcardFree, view, sameStack]

/--
Lookups at the snapshots of the traces on a word have single candidates exactly if an
empty pattern and one with tokens at the top never meet there for the same input.  In
any case a lookup has at most two candidates wherever a run comes to, and what is taken
there is the only candidate of the lookup that finds it; those before it have none.
-/
theorem Built.singleCandidates_iff
    {machine : Automaton}
    (built : machine.Built)
    (word : List Terminal) :
    (machine.SingleCandidates word ↔
        ¬ ∃ budget trace earlier snapshot later stack input,
          machine.run budget word = .ok trace ∧
            trace.snapshots = earlier ++ snapshot :: later ∧
            stack.toList = snapshot.stack ∧
            (input = .epsilon ∨
              (word.drop (consumedBy earlier).length).head? = some input) ∧
            machine.table.MixesAt snapshot.state input stack) ∧
      ∀ steps here,
        machine.Path (machine.initial word) steps here →
        (∀ input mode,
          (machine.table.candidates here.state input here.stack mode).length ≤ 2) ∧
          ∀ choice,
            machine.choose? here = some choice →
            ∃ earlier mode later,
              probes here.unread.head? = earlier ++ (choice.consumed, mode) :: later ∧
                (∀ probe ∈ earlier,
                  machine.table.candidates here.state probe.1 here.stack probe.2 = []) ∧
                machine.table.candidates here.state choice.consumed here.stack mode =
                  [choice.transition] := by
  have wellFormed := built.wellFormed
  refine ⟨⟨?_, ?_⟩, ?_⟩
  · rintro single ⟨budget, trace, earlier, snapshot, later, stack, input, returned, shape, view,
      isNext, mixes⟩
    have concrete := wellFormed.wildcardFree_of_snapshot returned shape view
    have isProbe :
        (input, PatternMode.topOfStack) ∈ probes (word.drop (consumedBy earlier).length).head? :=
      mem_probes_iff.mpr isNext
    have atMostOne := single _ _ _ _ _ _ _ _ returned shape view isProbe
    exact (wellFormed.length_candidates_le_one_iff concrete _).mp atMostOne ⟨rfl, mixes⟩
  · intro neverMixed budget trace earlier snapshot later stack input mode returned shape view isProbe
    have concrete := wellFormed.wildcardFree_of_snapshot returned shape view
    rw [wellFormed.length_candidates_le_one_iff concrete]
    rintro ⟨_, mixes⟩
    exact neverMixed ⟨budget, trace, earlier, snapshot, later, stack, input, returned, shape, view,
      mem_probes_iff.mp isProbe, mixes⟩
  · intro steps here path
    have concrete := wellFormed.wildcardFree_of_path path
    refine ⟨fun _ mode => wellFormed.length_candidates_le_two concrete mode, ?_⟩
    intro choice chosen
    exact wellFormed.candidates_of_select? concrete chosen

/-- A pattern with tokens and an empty one meet, and the one that is empty is taken first. -/
theorem singleCandidates_iff_mixed :
    ∃ machine steps here,
      assemble 3 0 [⟨"a"⟩, ⟨"x"⟩] [] [2]
          [ ⟨0, .epsilon, [], 1, [.terminal ⟨"x"⟩], []⟩,
            ⟨1, ⟨"a"⟩, [.terminal ⟨"x"⟩], 2, [], []⟩,
            ⟨1, ⟨"a"⟩, [], 2, [], []⟩ ] = .ok machine ∧
        machine.Built ∧
        ¬ machine.SingleCandidates [⟨"a"⟩] ∧
        machine.Path (machine.initial [⟨"a"⟩]) steps here ∧
        machine.choose? here = some ⟨⟨"a"⟩, ⟨1, ⟨"a"⟩, [], 2, [], []⟩⟩ ∧
        (machine.table.candidates here.state ⟨"a"⟩ here.stack .topOfStack).length ≤ 2 ∧
        ∃ earlier mode later,
          probes here.unread.head? = earlier ++ (⟨"a"⟩, mode) :: later ∧
            machine.table.candidates here.state ⟨"a"⟩ here.stack mode =
              [⟨1, ⟨"a"⟩, [], 2, [], []⟩] := by
  let push : Transition := ⟨0, .epsilon, [], 1, [.terminal ⟨"x"⟩], []⟩
  let deep : Transition := ⟨1, ⟨"a"⟩, [.terminal ⟨"x"⟩], 2, [], []⟩
  let plain : Transition := ⟨1, ⟨"a"⟩, [], 2, [], []⟩
  let pushed : Snapshot := ⟨0, .epsilon, [], push, false⟩
  let read : Snapshot := ⟨1, ⟨"a"⟩, [.terminal ⟨"x"⟩], plain, true⟩
  let marker : Snapshot := ⟨2, .epsilon, [.terminal ⟨"x"⟩], plain, true⟩
  obtain ⟨machine, assembled, passed⟩ := Except.exists_eq_ok_of_any
    (assemble 3 0 [⟨"a"⟩, ⟨"x"⟩] [] [2] [push, deep, plain])
    (fun machine =>
      machine.table.row 1 == [deep, plain] &&
        machine.choose? (machine.initial [⟨"a"⟩]) == some ⟨.epsilon, push⟩ &&
        machine.choose? ((machine.initial [⟨"a"⟩]).follow ⟨.epsilon, push⟩) ==
          some ⟨⟨"a"⟩, plain⟩ &&
        (machine.run 9 [⟨"a"⟩]).toOption.any (·.snapshots == [pushed, read, marker]))
    (by cbv)
  simp only [Bool.and_eq_true, beq_iff_eq] at passed
  obtain ⟨⟨⟨row, first⟩, second⟩, passedRun⟩ := passed
  obtain ⟨trace, returned, snapshots⟩ := Except.exists_eq_ok_of_any _ _ passedRun
  rw [beq_iff_eq] at snapshots
  have built := Built.assemble assembled
  have path := Path.cons rfl first (.nil _)
  obtain ⟨single_iff, along⟩ := built.singleCandidates_iff [⟨"a"⟩]
  obtain ⟨atMostTwo, taken⟩ := along _ _ path
  obtain ⟨earlier, mode, later, split, _, only⟩ := taken _ second
  refine ⟨machine, _, _, assembled, built, ?_, path, second, atMostTwo _ _, earlier, mode, later,
    split, only⟩
  rw [single_iff, not_not]
  refine ⟨9, trace, [pushed], read, [marker], Stack.empty.push (.terminal ⟨"x"⟩), ⟨"a"⟩,
    returned, snapshots, rfl, .inr rfl, ?_⟩
  exact ⟨plain, by simp [row, read], deep, by simp [row, read], rfl, rfl, rfl, by simp [deep], rfl⟩

/-- Both transitions are candidates at the second snapshot, the one with the longer pattern first. -/
theorem not_singleCandidates_mixed :
    ∃ machine trace earlier snapshot later,
      assemble 3 0 [⟨"a"⟩, ⟨"x"⟩] [] [2]
          [ ⟨0, .epsilon, [], 1, [.terminal ⟨"x"⟩], []⟩,
            ⟨1, ⟨"a"⟩, [.terminal ⟨"x"⟩], 2, [], []⟩,
            ⟨1, ⟨"a"⟩, [], 2, [], []⟩ ] = .ok machine ∧
        machine.run 9 [⟨"a"⟩] = .ok trace ∧
        trace.snapshots = earlier ++ snapshot :: later ∧
        (Stack.empty.push (.terminal ⟨"x"⟩)).toList = snapshot.stack ∧
        ([⟨"a"⟩] : List Terminal).drop (consumedBy earlier).length = [⟨"a"⟩] ∧
        machine.table.candidates snapshot.state ⟨"a"⟩ (Stack.empty.push (.terminal ⟨"x"⟩))
            .topOfStack =
          [⟨1, ⟨"a"⟩, [.terminal ⟨"x"⟩], 2, [], []⟩, ⟨1, ⟨"a"⟩, [], 2, [], []⟩] ∧
        ¬ machine.SingleCandidates [⟨"a"⟩] := by
  let deep : Transition := ⟨1, ⟨"a"⟩, [.terminal ⟨"x"⟩], 2, [], []⟩
  let plain : Transition := ⟨1, ⟨"a"⟩, [], 2, [], []⟩
  let pushed : Snapshot :=
    ⟨0, .epsilon, [], ⟨0, .epsilon, [], 1, [.terminal ⟨"x"⟩], []⟩, false⟩
  let read : Snapshot := ⟨1, ⟨"a"⟩, [.terminal ⟨"x"⟩], plain, true⟩
  let marker : Snapshot := ⟨2, .epsilon, [.terminal ⟨"x"⟩], plain, true⟩
  let stack : Stack := Stack.empty.push (.terminal ⟨"x"⟩)
  obtain ⟨machine, assembled, passed⟩ := Except.exists_eq_ok_of_any
    (assemble 3 0 [⟨"a"⟩, ⟨"x"⟩] [] [2]
      [⟨0, .epsilon, [], 1, [.terminal ⟨"x"⟩], []⟩, deep, plain])
    (fun machine =>
      machine.table.candidates 1 ⟨"a"⟩ stack .topOfStack == [deep, plain] &&
        (machine.run 9 [⟨"a"⟩]).toOption.any (·.snapshots == [pushed, read, marker]))
    (by cbv)
  rw [Bool.and_eq_true, beq_iff_eq] at passed
  obtain ⟨trace, returned, snapshots⟩ := Except.exists_eq_ok_of_any _ _ passed.2
  rw [beq_iff_eq] at snapshots
  refine ⟨machine, trace, [pushed], read, [marker], assembled, returned, snapshots, rfl, rfl,
    passed.1, ?_⟩
  intro single
  have atMostOne := single 9 trace [pushed] read [marker] stack ⟨"a"⟩ .topOfStack returned snapshots
    rfl (by decide)
  rw [passed.1] at atMostOne
  simp at atMostOne

end Automaton

end Pushdown
