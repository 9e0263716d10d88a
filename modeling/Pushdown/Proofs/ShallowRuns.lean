import Mathlib.Data.List.Perm.Subperm
import Mathlib.Data.List.ProdSigma
import Pushdown.Proofs.StepLimit
import Pushdown.Proofs.Termination

namespace Pushdown

/-!
# Runs that come back

What a run does next depends only on where it stands.  So a run that comes back to a
configuration takes the same steps again and again, and one that never does passes through
no more configurations than there are.  With at most one token on the stack there are
finitely many: the states, the ends of the word, and the tokens that replacements bring in.
A small stack alone does not end a run, as unread input keeps it going, too.
-/

theorem Stack.depth_le_one_iff
    {stack : Stack} :
    stack.depth ≤ 1 ↔ stack = empty ∨ ∃ token, stack = empty.push token := by
  constructor
  · intro shallow
    rw [← length_toList] at shallow
    rcases tokens : stack.toList with _ | ⟨token, _ | ⟨below, others⟩⟩
    · exact .inl (ext_toList tokens)
    · exact .inr ⟨token, ext_toList (by rw [tokens, toList_push, toList_empty])⟩
    · simp [tokens] at shallow
  · rintro (rfl | ⟨token, rfl⟩) <;> simp [← length_toList]

namespace Automaton

/-! ## Paths through configurations -/

/-- From a configuration the run gets to one that it gets to again. -/
def ComesBack
    (machine : Automaton)
    (first : Configuration) :
    Prop :=
  ∃ before here cycle,
    machine.Path first before here ∧
      machine.Path here cycle here ∧
      cycle ≠ []

section Path

variable
  {machine : Automaton}
  {first here last : Configuration}
  {snapshots : List Snapshot}

theorem ComesBack.cons
    {choice : Choice}
    (busy : first.isDone = false)
    (chosen : machine.choose? first = some choice)
    (comesBack : machine.ComesBack (first.follow choice)) :
    machine.ComesBack first := by
  obtain ⟨before, here, cycle, path, around, nonempty⟩ := comesBack
  exact ⟨_, here, cycle, .cons busy chosen path, around, nonempty⟩

/-- A path that comes back nowhere passes through another configuration with every step. -/
theorem Path.exists_visited
    (path : machine.Path first snapshots last)
    (onward : ¬ machine.ComesBack first) :
    ∃ visited : List Configuration,
      visited.Nodup ∧
        visited.length = snapshots.length + 1 ∧
        ∀ here ∈ visited, ∃ before, machine.Path first before here := by
  induction path with
  | nil configuration =>
      refine ⟨[configuration], List.nodup_singleton _, rfl, ?_⟩
      rw [List.forall_mem_singleton]
      exact ⟨[], .nil configuration⟩
  | @cons configuration last choice snapshots busy chosen rest inductionHypothesis =>
      obtain ⟨visited, distinct, sameLength, reached⟩ :=
        inductionHypothesis fun comesBack => onward (comesBack.cons busy chosen)
      have notAgain : configuration ∉ visited := by
        intro again
        obtain ⟨before, back⟩ := reached configuration again
        exact onward ⟨[], configuration, _, .nil configuration, .cons busy chosen back,
          List.cons_ne_nil _ _⟩
      refine ⟨configuration :: visited, List.nodup_cons.mpr ⟨notAgain, distinct⟩, ?_, ?_⟩
      · rw [List.length_cons, List.length_cons, sameLength]
      · rw [List.forall_mem_cons]
        refine ⟨⟨[], .nil configuration⟩, fun here isVisited => ?_⟩
        obtain ⟨before, onwards⟩ := reached here isVisited
        exact ⟨_, .cons busy chosen onwards⟩

/-- A run that comes back never ends. -/
theorem ComesBack.not_endsWith
    {word : List Terminal}
    {trace : Trace}
    (comesBack : machine.ComesBack (machine.initial word)) :
    ¬ machine.EndsWith word trace := by
  obtain ⟨before, here, cycle, path, around, nonempty⟩ := comesBack
  -- The invariant is that there is still a way to the configuration that is come back to.
  refine not_endsWith_of_invariant
    (fun configuration => ∃ steps, steps ≠ [] ∧ machine.Path configuration steps here) ?_ ?_
  · cases path with
    | nil _ => exact ⟨cycle, nonempty, around⟩
    | cons busy chosen rest => exact ⟨_, List.cons_ne_nil _ _, .cons busy chosen rest⟩
  · rintro configuration ⟨steps, someSteps, onwards⟩
    cases onwards with
    | nil _ => exact (someSteps rfl).elim
    | @cons _ _ choice others busy chosen rest =>
        refine ⟨busy, choice, chosen, ?_⟩
        cases rest with
        | nil _ => exact ⟨cycle, nonempty, around⟩
        | cons nextBusy nextChosen further =>
            exact ⟨_, List.cons_ne_nil _ _, .cons nextBusy nextChosen further⟩

/-- What is read is read only once, so nothing is read on the way back. -/
theorem Path.consumed_of_cycle
    (around : machine.Path here snapshots here) :
    ∀ snapshot ∈ snapshots, snapshot.consumed = .epsilon := by
  have nothing : consumedBy snapshots = [] :=
    List.self_eq_append_left.mp around.unread_eq
  intro snapshot member
  simpa using List.filter_eq_nil_iff.mp nothing _ (List.mem_map_of_mem member)

theorem Path.isDone_of_cycle
    (around : machine.Path here snapshots here)
    (nonempty : snapshots ≠ []) :
    here.isDone = false := by
  cases around with
  | nil _ => exact (nonempty rfl).elim
  | cons busy _ _ => exact busy

end Path

/-- No path leads out of configurations that no step leads out of. -/
theorem Path.mem_of_closed
    {machine : Automaton}
    {configurations : List Configuration}
    (closed : configurations.all (fun configuration =>
      (machine.choose? configuration).all fun choice =>
        decide (configuration.follow choice ∈ configurations)) = true)
    {first last : Configuration}
    {steps : List Snapshot}
    (path : machine.Path first steps last)
    (initially : first ∈ configurations) :
    last ∈ configurations := by
  let isInside (configuration : Configuration) : Prop := configuration ∈ configurations
  have preserved : ∀ {configuration choice},
      isInside configuration →
      machine.choose? configuration = some choice →
      isInside (configuration.follow choice) := by
    intro configuration choice inside chosen
    have next := List.all_eq_true.mp closed configuration inside
    rw [chosen, Option.all_some, decide_eq_true_eq] at next
    exact next
  exact path.invariant preserved initially

/-- A run that never comes back ends under a limit of as many steps as there are configurations. -/
theorem exists_runWithin_eq_ok
    {machine : Automaton}
    {word : List Terminal}
    {configurations : List Configuration}
    (inside : ∀ {steps here},
      machine.Path (machine.initial word) steps here → here ∈ configurations)
    (onward : ¬ machine.ComesBack (machine.initial word)) :
    ∃ trace, machine.runWithin configurations.length word = .ok trace := by
  have ended : (machine.history configurations.length word).ending ≠ .unfinished := by
    refine history_ending_of_length_lt fun path => ?_
    obtain ⟨visited, distinct, steps, reached⟩ := path.exists_visited onward
    have bounded : visited.length ≤ configurations.length := by
      refine (distinct.subperm fun here isVisited => ?_).length_le
      obtain ⟨before, onwards⟩ := reached here isVisited
      exact inside onwards
    omega
  obtain ⟨trace, isTrace⟩ := Run.exists_trace?_eq_some ended
  exact ⟨trace, by rw [runWithin, Run.outcome, isTrace]⟩

/-! ## Shallow configurations -/

/-- The tokens that a step may put on the stack. -/
def replacementTokens
    (machine : Automaton) :
    List StackToken :=
  machine.table.transitions.flatMap (·.replacement)

/-- The configurations with at most one token on the stack that a run on a word may get to. -/
def shallowConfigurations
    (machine : Automaton)
    (word : List Terminal) :
    List Configuration :=
  (List.range machine.stateCount ×ˢ word.tails ×ˢ
      (Stack.empty :: machine.replacementTokens.map Stack.empty.push)).map
    fun (state, unread, stack) => ⟨state, unread, stack⟩

theorem length_shallowConfigurations
    (machine : Automaton)
    (word : List Terminal) :
    (machine.shallowConfigurations word).length =
      machine.stateCount * ((word.length + 1) * (machine.replacementTokens.length + 1)) := by
  simp [shallowConfigurations, List.length_product]

theorem WellFormed.state_lt_of_path
    {machine : Automaton}
    (wellFormed : machine.WellFormed)
    {word : List Terminal}
    {steps : List Snapshot}
    {here : Configuration}
    (path : machine.Path (machine.initial word) steps here) :
    here.state < machine.stateCount := by
  let isInside (configuration : Configuration) : Prop := configuration.state < machine.stateCount
  have preserved : ∀ {configuration choice},
      isInside configuration →
      machine.choose? configuration = some choice →
      isInside (configuration.follow choice) :=
    fun _ chosen => wellFormed.state_lt_follow chosen
  exact path.invariant preserved wellFormed.start

/-- Every token has been put there by a step. -/
theorem Path.mem_replacementTokens
    {machine : Automaton}
    {word : List Terminal}
    {steps : List Snapshot}
    {here : Configuration}
    (path : machine.Path (machine.initial word) steps here) :
    ∀ token ∈ here.stack.toList, token ∈ machine.replacementTokens := by
  let isKnown (configuration : Configuration) : Prop :=
    ∀ token ∈ configuration.stack.toList, token ∈ machine.replacementTokens
  have initially : isKnown (machine.initial word) := List.forall_mem_nil _
  have preserved : ∀ {configuration choice},
      isKnown configuration →
      machine.choose? configuration = some choice →
      isKnown (configuration.follow choice) := by
    intro configuration choice known chosen token member
    simp only [Configuration.follow, Stack.apply, Stack.toList_replaceTop,
      List.mem_append] at member
    rcases member with isNew | below
    · obtain ⟨inRow, _, _⟩ := mem_row_of_select? chosen
      exact List.mem_flatMap.mpr ⟨_, Table.mem_transitions_of_mem_row inRow, isNew⟩
    · exact known token (List.mem_of_mem_drop below)
  exact path.invariant preserved initially

theorem WellFormed.mem_shallowConfigurations
    {machine : Automaton}
    (wellFormed : machine.WellFormed)
    {word : List Terminal}
    {steps : List Snapshot}
    {here : Configuration}
    (path : machine.Path (machine.initial word) steps here)
    (shallow : here.stack.depth ≤ 1) :
    here ∈ machine.shallowConfigurations word := by
  have known := path.mem_replacementTokens
  have reads : word = consumedBy steps ++ here.unread := path.unread_eq
  have isStack : here.stack ∈ Stack.empty :: machine.replacementTokens.map Stack.empty.push := by
    rcases Stack.depth_le_one_iff.mp shallow with isEmpty | ⟨token, isToken⟩
    · exact List.mem_cons.mpr (.inl isEmpty)
    · refine List.mem_cons_of_mem _ (List.mem_map.mpr ⟨token, known token ?_, isToken.symm⟩)
      simp [isToken]
  have isState : here.state ∈ List.range machine.stateCount :=
    List.mem_range.mpr (wellFormed.state_lt_of_path path)
  have isEnd : here.unread ∈ word.tails := (List.mem_tails _ _).mpr ⟨_, reads.symm⟩
  exact List.mem_map.mpr ⟨(here.state, here.unread, here.stack),
    List.pair_mem_product.mpr ⟨isState, List.pair_mem_product.mpr ⟨isEnd, isStack⟩⟩, rfl⟩

/--
If there is never more than one token on the stack, then a run ends exactly if it never
comes back to a configuration, and a limit of as many steps as there are states, ends of
the word and tokens to choose from is enough for it.  A run that comes back reads nothing
on its way and has input left to read, so it is the unread input that keeps it going.
-/
theorem Built.run_eq_ok_iff_not_comesBack
    {machine : Automaton}
    (built : machine.Built)
    {word : List Terminal}
    (shallow : ∀ {steps here},
      machine.Path (machine.initial word) steps here → here.stack.depth ≤ 1) :
    ((∃ limit trace, ∀ budget,
        (machine.withStepLimit limit).run budget word = .ok trace) ↔
      ¬ machine.ComesBack (machine.initial word)) ∧
    (¬ machine.ComesBack (machine.initial word) →
      ∃ trace, ∀ limit budget,
        machine.stateCount *
            ((word.length + 1) * (machine.replacementTokens.length + 1)) ≤ limit →
        (machine.withStepLimit limit).run budget word = .ok trace) ∧
    ∀ before here cycle,
      machine.Path (machine.initial word) before here →
      machine.Path here cycle here →
      cycle ≠ [] →
      here.unread ≠ [] ∧ ∀ snapshot ∈ cycle, snapshot.consumed = .epsilon := by
  have inside : ∀ {steps here},
      machine.Path (machine.initial word) steps here →
      here ∈ machine.shallowConfigurations word :=
    fun path => built.wellFormed.mem_shallowConfigurations path (shallow path)
  have ends : ¬ machine.ComesBack (machine.initial word) →
      ∃ trace, ∀ limit,
        (machine.shallowConfigurations word).length ≤ limit →
        machine.runWithin limit word = .ok trace := by
    intro onward
    obtain ⟨trace, returned⟩ := exists_runWithin_eq_ok inside onward
    exact ⟨trace, fun limit => runWithin_eq_of_le returned⟩
  simp only [run_withStepLimit_eq, ← length_shallowConfigurations]
  refine ⟨⟨?_, ?_⟩, ?_, ?_⟩
  · rintro ⟨limit, trace, returned⟩ comesBack
    exact comesBack.not_endsWith (endsWith_of_runWithin (returned 0))
  · intro onward
    obtain ⟨trace, returned⟩ := ends onward
    exact ⟨_, trace, fun _ => returned _ (Nat.le_refl _)⟩
  · intro onward
    obtain ⟨trace, returned⟩ := ends onward
    exact ⟨trace, fun limit _ => returned limit⟩
  · intro before here cycle path around nonempty
    refine ⟨fun allRead => ?_, around.consumed_of_cycle⟩
    have busy := around.isDone_of_cycle nonempty
    rw [Configuration.isDone_iff.mpr ⟨allRead, shallow path⟩] at busy
    cases busy

/-- A terminal is put on the stack and taken away again for each that is read. -/
theorem run_eq_ok_iff_not_comesBack_two_states :
    ∃ machine trace,
      assemble 2 0 [⟨"a"⟩] [] [1]
          [ ⟨0, ⟨"a"⟩, [], 1, [.terminal ⟨"a"⟩], []⟩,
            ⟨1, .epsilon, [.terminal ⟨"a"⟩], 0, [], []⟩ ] = .ok machine ∧
        (∀ steps here,
          machine.Path (machine.initial [⟨"a"⟩, ⟨"a"⟩]) steps here → here.stack.depth ≤ 1) ∧
        ¬ machine.ComesBack (machine.initial [⟨"a"⟩, ⟨"a"⟩]) ∧
        (machine.withStepLimit 12).run 0 [⟨"a"⟩, ⟨"a"⟩] = .ok trace := by
  let configurations : List Configuration :=
    [ ⟨0, [⟨"a"⟩, ⟨"a"⟩], .empty⟩, ⟨1, [⟨"a"⟩], ⟨#[.terminal ⟨"a"⟩]⟩⟩, ⟨0, [⟨"a"⟩], .empty⟩,
      ⟨1, [], ⟨#[.terminal ⟨"a"⟩]⟩⟩, ⟨0, [], .empty⟩ ]
  obtain ⟨machine, assembled, passed⟩ := Except.exists_eq_ok_of_any
    (assemble 2 0 [⟨"a"⟩] [] [1]
      [ ⟨0, ⟨"a"⟩, [], 1, [.terminal ⟨"a"⟩], []⟩,
        ⟨1, .epsilon, [.terminal ⟨"a"⟩], 0, [], []⟩ ])
    (fun machine =>
      machine.start == 0 &&
        configurations.all (fun configuration =>
          (machine.choose? configuration).all fun choice =>
            decide (configuration.follow choice ∈ configurations)) &&
        machine.stateCount * ((2 + 1) * (machine.replacementTokens.length + 1)) == 12 &&
        (machine.runWithin 3 [⟨"a"⟩, ⟨"a"⟩]).toOption.any fun trace => !trace.rejected)
    (by cbv)
  simp only [Bool.and_eq_true, beq_iff_eq] at passed
  obtain ⟨⟨⟨start, closed⟩, bound⟩, passedRun⟩ := passed
  have shallow : ∀ {steps here},
      machine.Path (machine.initial [⟨"a"⟩, ⟨"a"⟩]) steps here → here.stack.depth ≤ 1 := by
    intro steps here path
    have allShallow : ∀ configuration ∈ configurations, configuration.stack.depth ≤ 1 := by
      decide
    exact allShallow here
      (path.mem_of_closed closed (by simp [initial, start, configurations]))
  obtain ⟨trace, returned, _⟩ := Except.exists_eq_ok_of_any _ _ passedRun
  obtain ⟨ends_iff, enough, _⟩ :=
    (Built.assemble assembled).run_eq_ok_iff_not_comesBack shallow
  have onward := ends_iff.mp
    ⟨3, trace, fun budget => (machine.run_withStepLimit_eq 3 budget _).trans returned⟩
  obtain ⟨sameTrace, limited⟩ := enough onward
  exact ⟨machine, sameTrace, assembled, fun _ _ => shallow, onward,
    limited 12 0 (Nat.le_of_eq bound)⟩

/-- With input left to read, a run may stay in a state for ever, with nothing on the stack. -/
theorem exists_shallow_run_without_end :
    ∃ machine,
      assemble 1 0 [⟨"a"⟩] [] [0] [⟨0, .epsilon, [], 0, [], []⟩] = .ok machine ∧
        (∀ steps here,
          machine.Path (machine.initial [⟨"a"⟩]) steps here → here.stack.depth ≤ 1) ∧
        ∀ limit budget trace, (machine.withStepLimit limit).run budget [⟨"a"⟩] ≠ .ok trace := by
  let idle : Transition := ⟨0, .epsilon, [], 0, [], []⟩
  let waiting : Configuration := ⟨0, [⟨"a"⟩], .empty⟩
  obtain ⟨machine, assembled, passed⟩ := Except.exists_eq_ok_of_any
    (assemble 1 0 [⟨"a"⟩] [] [0] [idle])
    (fun machine =>
      machine.start == 0 &&
        machine.choose? waiting == some ⟨.epsilon, idle⟩)
    (by cbv)
  simp only [Bool.and_eq_true, beq_iff_eq] at passed
  obtain ⟨start, chosen⟩ := passed
  have isWaiting : machine.initial [⟨"a"⟩] = waiting := by
    rw [initial, start]
  refine ⟨machine, assembled, ?_, ?_⟩
  · intro steps here path
    have inside : here ∈ [waiting] :=
      path.mem_of_closed (by simp [chosen]; rfl) (by simp [isWaiting])
    rw [List.mem_singleton.mp inside]
    exact Nat.zero_le 1
  · intro limit budget trace returned
    rw [run_withStepLimit_eq] at returned
    have comesBack : machine.ComesBack (machine.initial [⟨"a"⟩]) := by
      rw [isWaiting]
      exact ⟨[], waiting, _, .nil waiting, .cons rfl chosen (.nil waiting), List.cons_ne_nil _ _⟩
    exact comesBack.not_endsWith (endsWith_of_runWithin returned)

end Automaton

end Pushdown
