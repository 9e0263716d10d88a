import Pushdown.Derivation
import Pushdown.Proofs.Path
import Pushdown.Proofs.Precedence

namespace Pushdown

/-!
# Additions that keep the runs

A new transition with a pattern cannot take the place of one that was chosen
before: where both patterns are at the top of the stack, the check on additions
has told their inputs apart.  So a run stays as it is up to where it got stuck.
-/

namespace Automaton

/-- A new transition with a pattern leaves every preferred choice preferred. -/
theorem Preferred.append
    {row : List Transition}
    {next? : Option Terminal}
    {stack : Stack}
    {choice : Choice}
    {added : Transition}
    (preferred : Preferred row next? stack choice)
    (concrete : stack.WildcardFree)
    (fits : ∀ existing ∈ row, existing.Compatible added)
    (tokens : added.pattern ≠ []) :
    Preferred (row ++ [added]) next? stack choice := by
  have chosenAtTop := preferred.startsWith
  obtain ⟨earlier, mode, later, split, member, answers, notEarlier⟩ := preferred
  refine ⟨earlier, mode, later, split, List.mem_append_left _ member, answers, ?_⟩
  intro probe isEarlier transition inExtendedRow
  rw [List.mem_append, List.mem_singleton] at inExtendedRow
  rcases inExtendedRow with inRow | rfl
  · exact notEarlier probe isEarlier transition inRow
  · refine earlier_unanswered split member answers notEarlier (fits _ member) tokens ?_
      probe isEarlier
    intro addedAtTop
    exact concrete.overlap chosenAtTop addedAtTop

/-- An addition changes no choice where it has a pattern or belongs to another state. -/
theorem WellFormed.choose?_addTransition
    {machine extended : Automaton}
    (wellFormed : machine.WellFormed)
    {transition : Transition}
    (added : machine.addTransition transition = .ok extended)
    {configuration : Configuration}
    {choice : Choice}
    (concrete : configuration.stack.WildcardFree)
    (aside : transition.pattern ≠ [] ∨ configuration.state ≠ transition.source)
    (chosen : machine.choose? configuration = some choice) :
    extended.choose? configuration = some choice := by
  have extendedWellFormed := wellFormed.addTransition added
  obtain ⟨admitted, fits, rfl⟩ := addTransition_eq_ok_iff.mp added
  have preferred := preferred_of_select? chosen
  rw [choose?, extendedWellFormed.select?_eq_some_iff concrete, row_extend admitted.source]
  by_cases atSource : transition.source = configuration.state
  · rw [if_pos atSource]
    rcases aside with tokens | otherState
    · exact preferred.append concrete (atSource ▸ fits) tokens
    · exact (otherState atSource.symm).elim
  · rw [if_neg atSource, List.append_nil]
    exact preferred

/-- The run of a word under a limit takes a step from the state. -/
def Visits
    (machine : Automaton)
    (limit : Nat)
    (word : List Terminal)
    (state : Nat) :
    Prop :=
  ∃ snapshot ∈ (machine.history limit word).snapshots, snapshot.state = state

section

variable
  {machine extended : Automaton}
  {transition : Transition}
  {limit : Nat}
  {word : List Terminal}

/-- The path of a run is one of the extended automaton, too. -/
theorem WellFormed.path_addTransition
    (wellFormed : machine.WellFormed)
    (added : machine.addTransition transition = .ok extended)
    (aside : transition.pattern ≠ [] ∨ ¬ machine.Visits limit word transition.source)
    {last : Configuration}
    (path :
      machine.Path (machine.initial word) (machine.history limit word).snapshots last) :
    extended.Path (extended.initial word) (machine.history limit word).snapshots last := by
  obtain ⟨_, _, same⟩ := addTransition_eq_ok_iff.mp added
  have sameAccepting : machine.acceptStates = extended.acceptStates := by
    rw [same, extend]
  have sameInitial : extended.initial word = machine.initial word := by
    rw [same, extend, initial, initial]
  rw [sameInitial]
  refine path.transfer sameAccepting wellFormed.wildcardFree_follow ?_
    (machine.initial_wildcardFree word)
  intro configuration choice concrete recorded chosen
  refine wellFormed.choose?_addTransition added concrete ?_ chosen
  refine aside.imp_right fun unvisited sameState => ?_
  exact unvisited ⟨machine.record configuration choice, recorded, sameState⟩

/-- A run that does not get stuck stays the same. -/
theorem WellFormed.history_addTransition
    (wellFormed : machine.WellFormed)
    (added : machine.addTransition transition = .ok extended)
    (aside : transition.pattern ≠ [] ∨ ¬ machine.Visits limit word transition.source)
    (notStuck : (machine.history limit word).ending ≠ .stuck) :
    extended.history limit word = machine.history limit word := by
  obtain ⟨remaining, total, path, halts⟩ := machine.exists_path_history limit word
  have samePath := wellFormed.path_addTransition added aside path
  have sameHalt :
      extended.Halts remaining (machine.history limit word).last
        (machine.history limit word).ending :=
    halts.transfer fun stuck => (notStuck stuck).elim
  have sameRun := samePath.runFrom_eq_of_halts sameHalt
  rw [← total] at sameRun
  exact sameRun

/-- A stuck run goes on at most: whatever the limits, its steps are the first ones of any trace. -/
theorem WellFormed.prefix_addTransition
    (wellFormed : machine.WellFormed)
    (added : machine.addTransition transition = .ok extended)
    (aside : transition.pattern ≠ [] ∨ ¬ machine.Visits limit word transition.source)
    {otherLimit : Nat}
    {trace : Trace}
    (returned : extended.runWithin otherLimit word = .ok trace) :
    (machine.history limit word).snapshots <+: trace.snapshots := by
  obtain ⟨remaining, total, path, halts⟩ := machine.exists_path_history limit word
  have samePath := wellFormed.path_addTransition added aside path
  have ended := Run.outcome_eq_ok_iff.mp returned
  have steps_prefix :
      (machine.history limit word).snapshots <+:
        (extended.history otherLimit word).snapshots := by
    by_cases short : otherLimit < (machine.history limit word).snapshots.length
    · have unfinished := samePath.runFrom_unfinished short
      rw [← history] at unfinished
      simp [unfinished] at ended
    · obtain ⟨more, rfl⟩ := Nat.exists_eq_add_of_le (Nat.le_of_not_lt short)
      have goesOn := samePath.runFrom_eq more
      rw [← history] at goesOn
      rw [goesOn]
      exact List.prefix_append _ _
  rcases ended with ⟨_, rfl⟩ | ⟨_, rfl⟩
  · exact steps_prefix.trans (List.prefix_append _ _)
  · exact steps_prefix

theorem limitOr_addTransition
    (added : machine.addTransition transition = .ok extended)
    (budget : Nat) :
    extended.limitOr budget = machine.limitOr budget := by
  obtain ⟨_, _, rfl⟩ := addTransition_eq_ok_iff.mp added
  rfl

theorem WellFormed.run_addTransition
    (wellFormed : machine.WellFormed)
    (added : machine.addTransition transition = .ok extended)
    {budget : Nat}
    (aside :
      transition.pattern ≠ [] ∨
        ¬ machine.Visits (machine.limitOr budget) word transition.source)
    (notStuck : (machine.history (machine.limitOr budget) word).ending ≠ .stuck) :
    extended.run budget word = machine.run budget word := by
  have sameHistory := wellFormed.history_addTransition added aside notStuck
  rw [run, run, limitOr_addTransition added, runWithin, runWithin, sameHistory]

/--
A successful addition with a pattern, or to a state the run does not visit, is
conservative: traces that are not rejected and exceeded limits stay as they are, a
rejected trace is continued at most, and accepted words keep their derivations.
-/
theorem Built.addTransition_conservative
    (built : machine.Built)
    (added : machine.addTransition transition = .ok extended)
    {budget : Nat}
    (aside :
      transition.pattern ≠ [] ∨
        ¬ machine.Visits (machine.limitOr budget) word transition.source) :
    (∀ trace,
        machine.run budget word = .ok trace →
        trace.rejected = false →
        extended.run budget word = .ok trace) ∧
      (∀ exceeded,
        machine.run budget word = .error (.stepLimitExceeded exceeded) →
        extended.run budget word = .error (.stepLimitExceeded exceeded)) ∧
      (∀ trace,
        machine.run budget word = .ok trace →
        trace.rejected = true →
        ∀ otherBudget longer,
          extended.run otherBudget word = .ok longer →
          trace.snapshots <+: longer.snapshots) ∧
      ∀ trace,
        machine.run budget word = .ok trace →
        trace.isAccepted = true →
        ∃ kept,
          extended.run budget word = .ok kept ∧
            kept.isAccepted = true ∧
            Derivation.ofTrace kept = Derivation.ofTrace trace := by
  have wellFormed := built.wellFormed
  have sameTrace : ∀ trace,
      machine.run budget word = .ok trace →
      trace.rejected = false →
      extended.run budget word = .ok trace := by
    intro trace returned notRejected
    have finished := Run.finished_of_outcome returned notRejected
    rw [wellFormed.run_addTransition added aside (by simp [finished])]
    exact returned
  refine ⟨sameTrace, ?_, ?_, ?_⟩
  · intro exceeded failed
    have unfinished := (Run.outcome_eq_error_iff.mp failed).1
    rw [wellFormed.run_addTransition added aside (by simp [unfinished])]
    exact failed
  · intro trace returned rejected otherBudget longer otherReturned
    rcases Run.outcome_eq_ok_iff.mp returned with ⟨_, rfl⟩ | ⟨_, rfl⟩
    · contradiction
    · exact wellFormed.prefix_addTransition added aside otherReturned
  · intro trace returned accepted
    have kept := sameTrace trace returned (Trace.rejected_eq_false accepted)
    exact ⟨trace, kept, accepted, rfl⟩

end

/-- A word stays accepted, and one that got stuck at the new transition now gets past it. -/
theorem addTransition_continues_stuck_run :
    ∃ machine extended,
      assemble 3 0 [⟨"a"⟩, ⟨"b"⟩, ⟨"c"⟩] [] [2]
          [ ⟨0, ⟨"a"⟩, [], 1, [.state (.id 0), .terminal ⟨"a"⟩], []⟩,
            ⟨1, ⟨"b"⟩, [.state (.id 0)], 2, [], []⟩ ] = .ok machine ∧
        machine.addTransition
            ⟨1, ⟨"c"⟩, [.wildcard, .terminal ⟨"a"⟩], 2, [], []⟩ = .ok extended ∧
        (∃ trace,
          machine.run 9 [⟨"a"⟩, ⟨"b"⟩] = .ok trace ∧
            trace.isAccepted = true ∧
            extended.run 9 [⟨"a"⟩, ⟨"b"⟩] = .ok trace) ∧
        ∃ trace longer,
          machine.run 9 [⟨"a"⟩, ⟨"c"⟩] = .ok trace ∧
            trace.rejected = true ∧
            extended.run 9 [⟨"a"⟩, ⟨"c"⟩] = .ok longer ∧
            longer.isAccepted = true ∧
            trace.snapshots <+: longer.snapshots := by
  let added : Transition := ⟨1, ⟨"c"⟩, [.wildcard, .terminal ⟨"a"⟩], 2, [], []⟩
  obtain ⟨machine, assembled, passed⟩ := Except.exists_eq_ok_of_any
    (assemble 3 0 [⟨"a"⟩, ⟨"b"⟩, ⟨"c"⟩] [] [2]
      [ ⟨0, ⟨"a"⟩, [], 1, [.state (.id 0), .terminal ⟨"a"⟩], []⟩,
        ⟨1, ⟨"b"⟩, [.state (.id 0)], 2, [], []⟩ ])
    (fun machine =>
      (machine.run 9 [⟨"a"⟩, ⟨"b"⟩]).toOption.any (·.isAccepted) &&
        (machine.run 9 [⟨"a"⟩, ⟨"c"⟩]).toOption.any (·.rejected) &&
        (machine.addTransition added).toOption.any fun extended =>
          (extended.run 9 [⟨"a"⟩, ⟨"c"⟩]).toOption.any (·.isAccepted))
    (by cbv)
  simp only [Bool.and_eq_true] at passed
  obtain ⟨⟨passedAccepted, passedRejected⟩, passedAdded⟩ := passed
  obtain ⟨extended, isAdded, passedLonger⟩ := Except.exists_eq_ok_of_any _ _ passedAdded
  obtain ⟨trace, returned, accepted⟩ := Except.exists_eq_ok_of_any _ _ passedAccepted
  obtain ⟨shorter, shorterReturned, rejected⟩ := Except.exists_eq_ok_of_any _ _ passedRejected
  obtain ⟨longer, longerReturned, longerAccepted⟩ := Except.exists_eq_ok_of_any _ _ passedLonger
  have built := Built.assemble assembled
  have notRejected := Trace.rejected_eq_false accepted
  have tokens : added.pattern ≠ [] := by decide
  exact ⟨machine, extended, assembled, isAdded,
    ⟨trace, returned, accepted,
      (built.addTransition_conservative isAdded (.inl tokens)).1 trace returned notRejected⟩,
    ⟨shorter, longer, shorterReturned, rejected, longerReturned, longerAccepted,
      (built.addTransition_conservative isAdded (.inl tokens)).2.2.1 shorter shorterReturned
        rejected 9 longer longerReturned⟩⟩

end Automaton

end Pushdown
