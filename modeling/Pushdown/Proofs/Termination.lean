import Mathlib.Data.Finset.Card
import Mathlib.Logic.Relation
import Pushdown.Proofs.Path

namespace Pushdown

/-!
# Runs without cycles that read nothing end

A step reads a terminal or follows an edge of the graph of the transitions that
read nothing.  If that graph has no cycle, then along an edge fewer and fewer
states can be reached, whatever happens to the stack.  This number, together with
the number of unread terminals, is a measure that every step decreases, and it
bounds the length of a run.
-/

namespace Automaton

/-! ## The graph of the transitions that read nothing -/

/-- A transition that reads nothing leads from a state to another. -/
def EpsilonEdge
    (machine : Automaton)
    (source target : Nat) :
    Prop :=
  ∃ transition ∈ machine.table.transitions,
    transition.input = .epsilon ∧
      transition.source = source ∧
      transition.target = target

/-- No state leads back to itself along one or more edges. -/
def EpsilonAcyclic
    (machine : Automaton) :
    Prop :=
  ∀ state, ¬ Relation.TransGen machine.EpsilonEdge state state

/-- States whose heights decrease along every edge form no cycle. -/
theorem epsilonAcyclic_of_height
    {machine : Automaton}
    (height : Nat → Nat)
    (decreasing :
      ∀ transition ∈ machine.table.transitions,
        transition.input = .epsilon →
        height transition.target < height transition.source) :
    machine.EpsilonAcyclic := by
  have descends : ∀ {source target},
      Relation.TransGen machine.EpsilonEdge source target →
      height target < height source := by
    intro source target reaches
    induction reaches with
    | single edge =>
        obtain ⟨transition, inTable, readsNothing, rfl, rfl⟩ := edge
        exact decreasing transition inTable readsNothing
    | tail _ edge inductionHypothesis =>
        obtain ⟨transition, inTable, readsNothing, rfl, rfl⟩ := edge
        exact (decreasing transition inTable readsNothing).trans inductionHypothesis
  intro state cycle
  exact Nat.lt_irrefl _ (descends cycle)

open Classical in
/-- How many states can be reached along one or more edges. -/
noncomputable def epsilonReach
    (machine : Automaton)
    (state : Nat) :
    Nat :=
  {other ∈ Finset.range machine.stateCount |
    Relation.TransGen machine.EpsilonEdge state other}.card

section

variable
  {machine : Automaton}
  (acyclic : machine.EpsilonAcyclic)

include acyclic

/-- A state does not reach itself. -/
theorem EpsilonAcyclic.epsilonReach_lt_stateCount
    {state : Nat}
    (inside : state < machine.stateCount) :
    machine.epsilonReach state < machine.stateCount := by
  classical
  calc
    machine.epsilonReach state
        < (Finset.range machine.stateCount).card := by
      refine Finset.card_lt_card ((Finset.filter_ssubset).mpr ?_)
      exact ⟨state, Finset.mem_range.mpr inside, acyclic state⟩
    _ = machine.stateCount := Finset.card_range _

/-- Along an edge its target is lost, as it does not reach itself, and nothing is gained. -/
theorem EpsilonAcyclic.epsilonReach_lt_of_edge
    {source target : Nat}
    (inside : target < machine.stateCount)
    (edge : machine.EpsilonEdge source target) :
    machine.epsilonReach target < machine.epsilonReach source := by
  classical
  refine Finset.card_lt_card ⟨?_, ?_⟩
  · intro other member
    rw [Finset.mem_filter] at member ⊢
    exact ⟨member.1, .head edge member.2⟩
  · intro contained
    have isTarget := contained
      (Finset.mem_filter.mpr ⟨Finset.mem_range.mpr inside, .single edge⟩)
    exact acyclic target (Finset.mem_filter.mp isTarget).2

end

/-! ## The measure -/

/-- A bound on the steps from a configuration, a round over all states for each unread terminal. -/
noncomputable def stepsLeft
    (machine : Automaton)
    (configuration : Configuration) :
    Nat :=
  configuration.unread.length * machine.stateCount +
    machine.epsilonReach configuration.state

theorem WellFormed.state_lt_follow
    {machine : Automaton}
    (wellFormed : machine.WellFormed)
    {configuration : Configuration}
    {choice : Choice}
    (chosen : machine.choose? configuration = some choice) :
    (configuration.follow choice).state < machine.stateCount := by
  obtain ⟨inRow, _, _⟩ := mem_row_of_select? chosen
  exact (wellFormed.admits inRow).target

/-- A step reads a terminal, and starts another round, or follows an edge in this one. -/
theorem WellFormed.stepsLeft_follow_lt
    {machine : Automaton}
    (wellFormed : machine.WellFormed)
    (acyclic : machine.EpsilonAcyclic)
    {configuration : Configuration}
    {choice : Choice}
    (chosen : machine.choose? configuration = some choice) :
    machine.stepsLeft (configuration.follow choice) < machine.stepsLeft configuration := by
  obtain ⟨inRow, sameInput, _⟩ := mem_row_of_select? chosen
  have inside := wellFormed.state_lt_follow chosen
  unfold stepsLeft
  by_cases readsNothing : choice.consumed = .epsilon
  · have edge :
        machine.EpsilonEdge configuration.state (configuration.follow choice).state :=
      ⟨choice.transition, Table.mem_transitions_of_mem_row inRow,
        sameInput.trans readsNothing, wellFormed.sourceOfRow inRow, rfl⟩
    have sameUnread : (configuration.follow choice).unread = configuration.unread := by
      simp [Configuration.follow, readsNothing]
    rw [sameUnread]
    exact Nat.add_lt_add_left (acyclic.epsilonReach_lt_of_edge inside edge) _
  · have isNext := (consumed_of_choose? chosen).resolve_left readsNothing
    obtain ⟨others, shape⟩ := List.head?_eq_some_iff.mp isNext
    have fewerUnread : (configuration.follow choice).unread = others := by
      simp [Configuration.follow, readsNothing, shape]
    have roundBound := acyclic.epsilonReach_lt_stateCount inside
    rw [fewerUnread, shape, List.length_cons, Nat.succ_mul]
    omega

/-- Under a limit above the bound a run ends. -/
theorem WellFormed.history_ended
    {machine : Automaton}
    (wellFormed : machine.WellFormed)
    (acyclic : machine.EpsilonAcyclic)
    {limit : Nat}
    {word : List Terminal}
    (enough : (word.length + 1) * machine.stateCount ≤ limit) :
    (machine.history limit word).ending ≠ .unfinished := by
  refine history_ending_of_length_lt fun path => ?_
  have bounded := path.length_add_le (wellFormed.stepsLeft_follow_lt acyclic)
  have firstRound := acyclic.epsilonReach_lt_stateCount wellFormed.start
  have stepsInitially :
      machine.stepsLeft (machine.initial word) < (word.length + 1) * machine.stateCount := by
    rw [Nat.succ_mul]
    exact Nat.add_lt_add_left firstRound _
  omega

/--
Without cycles that read nothing every run ends: all limits from a round over the
states for each terminal and one more on give the same trace, and so does the run
without a limit, given that much budget.
-/
theorem Built.exists_run_eq_ok_of_epsilonAcyclic
    {machine : Automaton}
    (built : machine.Built)
    (acyclic : machine.EpsilonAcyclic)
    (word : List Terminal) :
    ∃ trace,
      (∀ limit budget,
        (word.length + 1) * machine.stateCount ≤ limit →
        (machine.withStepLimit limit).run budget word = .ok trace) ∧
      ∀ budget,
        (word.length + 1) * machine.stateCount ≤ budget →
        { machine with stepLimit := none }.run budget word = .ok trace := by
  let bound := (word.length + 1) * machine.stateCount
  have ended := built.wellFormed.history_ended acyclic (Nat.le_refl bound)
  obtain ⟨trace, isTrace⟩ := Run.exists_trace?_eq_some ended
  have returned : ∀ limit stepLimit,
      bound ≤ limit →
      { machine with stepLimit := stepLimit }.runWithin limit word = .ok trace := by
    intro limit stepLimit enough
    have sameHistory :
        { machine with stepLimit := stepLimit }.history limit word =
          machine.history bound word := by
      rw [← history_eq_of_le ended enough]
      exact machine.runFrom_stepLimit stepLimit limit _ []
    rw [runWithin, sameHistory, Run.outcome, isTrace]
  refine ⟨trace, ?_, ?_⟩
  · intro limit budget enough
    exact returned limit (some limit) enough
  · intro budget enough
    exact returned budget none enough

/-- The stack grows in every step, and the bound cannot be smaller: eight steps are taken. -/
theorem exists_run_eq_ok_growing_stack :
    ∃ machine trace,
      assemble 3 0 [⟨"a"⟩, ⟨"x"⟩] [] [2]
          [ ⟨0, .epsilon, [], 1, [.terminal ⟨"x"⟩], []⟩,
            ⟨1, .epsilon, [.terminal ⟨"x"⟩], 2, [.terminal ⟨"x"⟩, .terminal ⟨"x"⟩], []⟩,
            ⟨2, ⟨"a"⟩, [], 0, [.terminal ⟨"x"⟩], []⟩ ] = .ok machine ∧
        machine.EpsilonAcyclic ∧
        (2 + 1) * machine.stateCount = 9 ∧
        (machine.withStepLimit 9).run 0 [⟨"a"⟩, ⟨"a"⟩] = .ok trace ∧
        { machine with stepLimit := none }.run 9 [⟨"a"⟩, ⟨"a"⟩] = .ok trace ∧
        trace.snapshots.length = 8 := by
  let transitions : List Transition :=
    [ ⟨0, .epsilon, [], 1, [.terminal ⟨"x"⟩], []⟩,
      ⟨1, .epsilon, [.terminal ⟨"x"⟩], 2, [.terminal ⟨"x"⟩, .terminal ⟨"x"⟩], []⟩,
      ⟨2, ⟨"a"⟩, [], 0, [.terminal ⟨"x"⟩], []⟩ ]
  obtain ⟨machine, assembled, passed⟩ := Except.exists_eq_ok_of_any
    (assemble 3 0 [⟨"a"⟩, ⟨"x"⟩] [] [2] transitions)
    (fun machine =>
      machine.stateCount == 3 &&
        machine.table.transitions == transitions &&
        ((machine.withStepLimit 9).run 0 [⟨"a"⟩, ⟨"a"⟩]).toOption.any fun trace =>
          trace.snapshots.length == 8)
    (by cbv)
  simp only [Bool.and_eq_true, beq_iff_eq] at passed
  obtain ⟨⟨threeStates, inTable⟩, passedRun⟩ := passed
  have acyclic : machine.EpsilonAcyclic := by
    apply epsilonAcyclic_of_height (3 - ·)
    rw [inTable]
    decide
  have bound : (2 + 1) * machine.stateCount = 9 := by
    rw [threeStates]
  obtain ⟨trace, limited, unlimited⟩ :=
    (Built.assemble assembled).exists_run_eq_ok_of_epsilonAcyclic acyclic [⟨"a"⟩, ⟨"a"⟩]
  have returned := limited 9 0 (Nat.le_of_eq bound)
  obtain ⟨other, otherReturned, eightSteps⟩ := Except.exists_eq_ok_of_any _ _ passedRun
  have same : other = trace := Except.ok.inj (otherReturned.symm.trans returned)
  subst other
  exact ⟨machine, trace, assembled, acyclic, bound, returned,
    unlimited 9 (Nat.le_of_eq bound), by simpa using eightSteps⟩

end Automaton

end Pushdown
