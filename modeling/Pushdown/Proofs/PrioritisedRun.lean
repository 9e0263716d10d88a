import Pushdown.Proofs.Path
import Pushdown.Proofs.Rank

namespace Pushdown

/-!
# Traces as runs by rank

What a trace should be is said here without the functions that run: every
recorded step takes a transition that applies and has the least rank in its row,
and the run ends where it is done or where nothing applies.  The traces that are
returned are exactly these.
-/

namespace Automaton

/-! ## Steps by rank -/

/-- The snapshot shows the step from a configuration by a transition of least rank. -/
structure PrioritisedStep
    (machine : Automaton)
    (before : Configuration)
    (snapshot : Snapshot)
    (after : Configuration) :
    Prop where
  state :
    snapshot.state = before.state
  stack :
    snapshot.stack = before.stack.toList
  inRow :
    snapshot.transition ∈ machine.table.row snapshot.state
  atTop :
    StackToken.AtTop snapshot.transition.pattern snapshot.stack
  consumed :
    snapshot.consumed = snapshot.transition.input
  reads :
    snapshot.consumed = .epsilon ∨ before.unread.head? = some snapshot.consumed
  least :
    ∀ other ∈ machine.table.row snapshot.state,
      other.Applies before.unread.head? before.stack →
      snapshot.transition.rank ≤ other.rank
  accepting :
    snapshot.accepting = true ↔ snapshot.transition.target ∈ machine.acceptStates
  nextState :
    after.state = snapshot.transition.target
  nextUnread :
    after.unread = if snapshot.consumed = .epsilon then before.unread else before.unread.tail
  nextStack :
    after.stack.toList =
      snapshot.transition.replacement ++
        snapshot.stack.drop snapshot.transition.pattern.length

/-- On a stack without wildcards the steps by rank are those of the choices. -/
theorem WellFormed.prioritisedStep_iff
    {machine : Automaton}
    (wellFormed : machine.WellFormed)
    {before after : Configuration}
    {snapshot : Snapshot}
    (concrete : before.stack.WildcardFree) :
    machine.PrioritisedStep before snapshot after ↔
      ∃ choice,
        machine.choose? before = some choice ∧
          snapshot = machine.record before choice ∧
          after = before.follow choice := by
  constructor
  · intro step
    refine ⟨⟨snapshot.consumed, snapshot.transition⟩, ?_, ?_, ?_⟩
    · rw [choose?, wellFormed.select?_eq_some_iff concrete, preferred_iff_foremost]
      refine ⟨step.consumed, step.state ▸ step.inRow, ⟨?_, ?_⟩, step.state ▸ step.least⟩
      · exact step.consumed ▸ step.reads
      · exact step.stack ▸ step.atTop
    · have sameAccepting :
          snapshot.accepting = machine.isAccepting snapshot.transition.target := by
        rw [Bool.eq_iff_iff, step.accepting, isAccepting, decide_eq_true_iff]
      obtain ⟨state, consumed, stack, transition, accepting⟩ := snapshot
      simp only [record, ← step.state, ← step.stack, ← sameAccepting]
    · have sameStack : after.stack = before.stack.apply snapshot.transition := by
        apply Stack.ext_toList
        rw [step.nextStack, step.stack, Stack.apply, Stack.toList_replaceTop]
      obtain ⟨state, unread, stack⟩ := after
      simp only [Configuration.follow, ← step.nextState, ← sameStack,
        Configuration.mk.injEq, true_and, and_true]
      simpa using step.nextUnread
  · rintro ⟨choice, chosen, rfl, rfl⟩
    obtain ⟨consumes, foremost⟩ := preferred_iff_foremost.mp (preferred_of_select? chosen)
    exact {
      state := rfl
      stack := rfl
      inRow := foremost.inRow
      atTop := foremost.applies.pattern
      consumed := consumes
      reads := consumed_of_choose? chosen
      least := foremost.least
      accepting := decide_eq_true_iff
      nextState := rfl
      nextUnread := by
        by_cases readsNothing : choice.consumed = .epsilon <;>
          simp [Configuration.follow, record, readsNothing]
      nextStack := Stack.toList_replaceTop ..
    }

/-- Steps by rank, one after the other, none of them from a configuration where a run is done. -/
inductive PrioritisedPath
    (machine : Automaton) :
    Configuration → List Snapshot → Configuration → Prop where
  | nil (configuration : Configuration) :
      PrioritisedPath machine configuration [] configuration
  | cons
      {before after last : Configuration}
      {snapshot : Snapshot}
      {snapshots : List Snapshot} :
      (before.unread ≠ [] ∨ 1 < before.stack.depth) →
      machine.PrioritisedStep before snapshot after →
      PrioritisedPath machine after snapshots last →
      PrioritisedPath machine before (snapshot :: snapshots) last

/-- From a stack without wildcards the paths by rank are those of the choices. -/
theorem WellFormed.prioritisedPath_iff
    {machine : Automaton}
    (wellFormed : machine.WellFormed)
    {first last : Configuration}
    {snapshots : List Snapshot}
    (concrete : first.stack.WildcardFree) :
    machine.PrioritisedPath first snapshots last ↔ machine.Path first snapshots last := by
  constructor
  · intro path
    induction path with
    | nil configuration => exact .nil configuration
    | cons busy step _ inductionHypothesis =>
        obtain ⟨choice, chosen, rfl, rfl⟩ := (wellFormed.prioritisedStep_iff concrete).mp step
        have concreteAfter := wellFormed.wildcardFree_follow concrete chosen
        exact .cons (Configuration.isDone_eq_false_iff.mpr busy) chosen
          (inductionHypothesis concreteAfter)
  · intro path
    induction path with
    | nil configuration => exact .nil configuration
    | cons busy chosen _ inductionHypothesis =>
        have step := (wellFormed.prioritisedStep_iff concrete).mpr ⟨_, chosen, rfl, rfl⟩
        have concreteAfter := wellFormed.wildcardFree_follow concrete chosen
        exact .cons (Configuration.isDone_eq_false_iff.mp busy) step
          (inductionHypothesis concreteAfter)

/-! ## Traces by rank -/

/-- The traces of the runs by rank on a word that record at most a number of steps. -/
inductive PrioritisedRun
    (machine : Automaton)
    (limit : Nat)
    (word : List Terminal) :
    Trace → Prop where
  /-- No transition applies, although something is left to do and to record. -/
  | rejected
      {snapshots : List Snapshot}
      {last : Configuration} :
      machine.PrioritisedPath ⟨machine.start, word, .empty⟩ snapshots last →
      snapshots.length < limit →
      (last.unread ≠ [] ∨ 1 < last.stack.depth) →
      (∀ transition ∈ machine.table.row last.state,
        ¬ transition.Applies last.unread.head? last.stack) →
      PrioritisedRun machine limit word ⟨snapshots, true⟩
  /-- Nothing is left to do, but no step has led into an accepting state just now. -/
  | finished
      {snapshots : List Snapshot}
      {last : Configuration} :
      machine.PrioritisedPath ⟨machine.start, word, .empty⟩ snapshots last →
      snapshots.length ≤ limit →
      last.unread = [] →
      last.stack.depth ≤ 1 →
      (∀ final, snapshots.getLast? = some final → final.accepting = false) →
      PrioritisedRun machine limit word ⟨snapshots, false⟩
  /-- The last step has led into an accepting state; where it led is shown at the end. -/
  | accepted
      {snapshots : List Snapshot}
      {last : Configuration}
      {final : Snapshot} :
      machine.PrioritisedPath ⟨machine.start, word, .empty⟩ snapshots last →
      snapshots.length ≤ limit →
      last.unread = [] →
      last.stack.depth ≤ 1 →
      snapshots.getLast? = some final →
      final.accepting = true →
      PrioritisedRun machine limit word
        ⟨snapshots ++
            [⟨last.state, .epsilon, last.stack.toList, final.transition, true⟩],
          false⟩

theorem halts_finished_iff
    {machine : Automaton}
    {remaining : Nat}
    {last : Configuration} :
    machine.Halts remaining last .finished ↔
      last.unread = [] ∧ last.stack.depth ≤ 1 := by
  rw [← Configuration.isDone_iff]
  constructor
  · intro halts
    cases halts with
    | finished done => exact done
  · exact .finished

/-- A run is stuck where something is left to do and to record, but no transition applies. -/
theorem halts_stuck_iff
    {machine : Automaton}
    {remaining : Nat}
    {last : Configuration} :
    machine.Halts remaining last .stuck ↔
      (last.unread ≠ [] ∨ 1 < last.stack.depth) ∧
        0 < remaining ∧
        ∀ transition ∈ machine.table.row last.state,
          ¬ transition.Applies last.unread.head? last.stack := by
  rw [← Configuration.isDone_eq_false_iff, ← select?_eq_none_iff_not_applies]
  constructor
  · intro halts
    cases halts with
    | stuck busy positive noChoice => exact ⟨busy, positive, noChoice⟩
  · rintro ⟨busy, positive, noChoice⟩
    exact .stuck busy positive noChoice

/-- The traces of the runs by rank are those that the automaton returns. -/
theorem WellFormed.runWithin_eq_ok_iff
    {machine : Automaton}
    (wellFormed : machine.WellFormed)
    {limit : Nat}
    {word : List Terminal}
    {trace : Trace} :
    machine.runWithin limit word = .ok trace ↔ machine.PrioritisedRun limit word trace := by
  have history_iff : ∀ {snapshots last ending},
      machine.history limit word = ⟨snapshots, last, ending⟩ ↔
        machine.PrioritisedPath ⟨machine.start, word, .empty⟩ snapshots last ∧
          snapshots.length ≤ limit ∧
          machine.Halts (limit - snapshots.length) last ending := by
    intro snapshots last ending
    rw [history_eq_iff,
      ← wellFormed.prioritisedPath_iff (machine.initial_wildcardFree word)]
    rfl
  rw [runWithin, Run.outcome_eq_ok_iff]
  constructor
  · intro ended
    generalize sameRun : machine.history limit word = run at ended
    obtain ⟨snapshots, last, ending⟩ := run
    obtain ⟨path, within, halts⟩ := history_iff.mp sameRun
    rcases ended with ⟨rfl, rfl⟩ | ⟨rfl, rfl⟩
    · obtain ⟨allRead, shallow⟩ := halts_finished_iff.mp halts
      cases found : (Run.mk snapshots last .finished).marker? with
      | none =>
          have notAccepting := Run.marker?_eq_none_iff.mp found
          simpa using PrioritisedRun.finished path within allRead shallow notAccepting
      | some marker =>
          obtain ⟨final, isFinal, accepting, rfl⟩ := Run.marker?_eq_some_iff.mp found
          exact .accepted path within allRead shallow isFinal accepting
    · obtain ⟨busy, positive, noneApplies⟩ := halts_stuck_iff.mp halts
      exact .rejected path (Nat.lt_of_sub_pos positive) busy noneApplies
  · intro byRank
    cases byRank with
    | rejected path within busy noneApplies =>
        have room := Nat.sub_pos_of_lt within
        rw [history_iff.mpr
          ⟨path, Nat.le_of_lt within, halts_stuck_iff.mpr ⟨busy, room, noneApplies⟩⟩]
        exact .inr ⟨rfl, rfl⟩
    | @finished snapshots last path within allRead shallow notAccepting =>
        have noMarker : (Run.mk snapshots last .finished).marker? = none :=
          Run.marker?_eq_none_iff.mpr notAccepting
        rw [history_iff.mpr ⟨path, within, halts_finished_iff.mpr ⟨allRead, shallow⟩⟩]
        exact .inl ⟨rfl, by simp [noMarker]⟩
    | @accepted snapshots last final path within allRead shallow isFinal accepting =>
        have hasMarker :
            (Run.mk snapshots last .finished).marker? =
              some ⟨last.state, .epsilon, last.stack.toList, final.transition, true⟩ :=
          Run.marker?_eq_some_iff.mpr ⟨final, isFinal, accepting, rfl⟩
        rw [history_iff.mpr ⟨path, within, halts_finished_iff.mpr ⟨allRead, shallow⟩⟩]
        exact .inl ⟨rfl, by simp [hasMarker]⟩

/-- A returned trace consumes the front of the word, and all of it unless the run got stuck. -/
theorem exists_consumedBy_append
    {machine : Automaton}
    {limit : Nat}
    {word : List Terminal}
    {trace : Trace}
    (returned : machine.runWithin limit word = .ok trace) :
    ∃ unread,
      word = consumedBy trace.snapshots ++ unread ∧
        (trace.rejected = false → unread = []) := by
  obtain ⟨_, _, path, halts⟩ := machine.exists_path_history limit word
  refine ⟨(machine.history limit word).last.unread, ?_⟩
  have reads : word = _ := path.unread_eq
  rcases Run.outcome_eq_ok_iff.mp returned with ⟨finished, rfl⟩ | ⟨_, rfl⟩
  · rw [finished] at halts
    cases halts with
    | finished done =>
        -- The marker consumes nothing.
        have nothingMore : consumedBy (machine.history limit word).marker?.toList = [] := by
          cases found : (machine.history limit word).marker? with
          | none => rfl
          | some marker =>
              obtain ⟨_, _, _, rfl⟩ := Run.marker?_eq_some_iff.mp found
              simp [consumedBy]
        refine ⟨?_, fun _ => (Configuration.isDone_iff.mp done).1⟩
        rwa [consumedBy_append, nothingMore, List.append_nil]
  · exact ⟨reads, fun notRejected => by contradiction⟩

/--
The returned traces are those of the runs by rank.  What they consume is the front
of the word, and the whole word if the trace is not rejected.
-/
theorem Built.run_eq_ok_iff_prioritisedRun
    {machine : Automaton}
    (built : machine.Built)
    {budget : Nat}
    {word : List Terminal}
    {trace : Trace} :
    (machine.run budget word = .ok trace ↔
        machine.PrioritisedRun (machine.limitOr budget) word trace) ∧
      (machine.run budget word = .ok trace →
        consumedBy trace.snapshots <+: word ∧
          (trace.rejected = false → consumedBy trace.snapshots = word)) := by
  refine ⟨built.wellFormed.runWithin_eq_ok_iff, ?_⟩
  intro returned
  obtain ⟨unread, shape, allRead⟩ := exists_consumedBy_append returned
  refine ⟨⟨unread, shape.symm⟩, ?_⟩
  intro notRejected
  rw [allRead notRejected, List.append_nil] at shape
  exact shape.symm

/-- One word is read through to an accepting state, another one gets stuck under a state marker. -/
theorem prioritisedRun_accepted_and_rejected :
    ∃ machine accepted rejected,
      assemble 3 0 [⟨"a"⟩, ⟨"b"⟩, ⟨"$"⟩] [] [2]
          [ ⟨0, .epsilon, [], 1, [.terminal ⟨"$"⟩], []⟩,
            ⟨1, ⟨"$"⟩, [.terminal ⟨"$"⟩], 2, [], []⟩,
            ⟨1, ⟨"b"⟩, [.wildcard, .terminal ⟨"a"⟩], 1, [], []⟩,
            ⟨1, ⟨"a"⟩, [], 1, [.state (.id 1), .terminal ⟨"a"⟩], []⟩ ] = .ok machine ∧
        machine.run 9 [⟨"a"⟩, ⟨"b"⟩, ⟨"$"⟩] = .ok accepted ∧
        accepted.isAccepted = true ∧
        machine.PrioritisedRun (machine.limitOr 9) [⟨"a"⟩, ⟨"b"⟩, ⟨"$"⟩] accepted ∧
        consumedBy accepted.snapshots = [⟨"a"⟩, ⟨"b"⟩, ⟨"$"⟩] ∧
        machine.run 9 [⟨"a"⟩, ⟨"$"⟩] = .ok rejected ∧
        rejected.rejected = true ∧
        machine.PrioritisedRun (machine.limitOr 9) [⟨"a"⟩, ⟨"$"⟩] rejected ∧
        consumedBy rejected.snapshots <+: [⟨"a"⟩, ⟨"$"⟩] := by
  obtain ⟨machine, assembled, passed⟩ := Except.exists_eq_ok_of_any
    (assemble 3 0 [⟨"a"⟩, ⟨"b"⟩, ⟨"$"⟩] [] [2]
      [ ⟨0, .epsilon, [], 1, [.terminal ⟨"$"⟩], []⟩,
        ⟨1, ⟨"$"⟩, [.terminal ⟨"$"⟩], 2, [], []⟩,
        ⟨1, ⟨"b"⟩, [.wildcard, .terminal ⟨"a"⟩], 1, [], []⟩,
        ⟨1, ⟨"a"⟩, [], 1, [.state (.id 1), .terminal ⟨"a"⟩], []⟩ ])
    (fun machine =>
      (machine.run 9 [⟨"a"⟩, ⟨"b"⟩, ⟨"$"⟩]).toOption.any (·.isAccepted) &&
        (machine.run 9 [⟨"a"⟩, ⟨"$"⟩]).toOption.any (·.rejected))
    (by cbv)
  rw [Bool.and_eq_true] at passed
  obtain ⟨accepted, returned, isAccepted⟩ := Except.exists_eq_ok_of_any _ _ passed.1
  obtain ⟨rejected, otherReturned, isRejected⟩ := Except.exists_eq_ok_of_any _ _ passed.2
  have built := Built.assemble assembled
  have notRejected := Trace.rejected_eq_false isAccepted
  exact ⟨machine, accepted, rejected, assembled,
    returned, isAccepted,
    built.run_eq_ok_iff_prioritisedRun.1.mp returned,
    (built.run_eq_ok_iff_prioritisedRun.2 returned).2 notRejected,
    otherReturned, isRejected,
    built.run_eq_ok_iff_prioritisedRun.1.mp otherReturned,
    (built.run_eq_ok_iff_prioritisedRun.2 otherReturned).1⟩

end Automaton

end Pushdown
