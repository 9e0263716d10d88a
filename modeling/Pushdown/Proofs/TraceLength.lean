import Pushdown.Proofs.StepLimit

namespace Pushdown

/-!
# How long a trace gets under a limit

A limit is looked at before each step, so it bounds the steps that are recorded.  The
snapshot that shows where an accepted run ended is put behind the steps without
another look.  A trace is therefore longer than the limit, by that one snapshot, if
the run is accepted after just as many steps as the limit allows, and no other trace is.
-/

namespace Trace

/-- Besides its steps a trace has a snapshot that shows where the run ended, if it is accepted. -/
theorem length_snapshots_eq
    (trace : Trace) :
    trace.snapshots.length = trace.stepCount + (if trace.isAccepted then 1 else 0) := by
  cases accepted : trace.isAccepted with
  | false => simp [stepCount, accepted]
  | true =>
      have recorded : trace.snapshots ≠ [] := by
        intro nothing
        simp [isAccepted, nothing] at accepted
      have positive : 0 < trace.snapshots.length :=
        List.length_pos_iff.mpr recorded
      simp only [stepCount, accepted, ↓reduceIte]
      omega

end Trace

namespace Automaton

variable
  {machine : Automaton}
  {limit : Nat}
  {word : List Terminal}
  {trace : Trace}

/-- The steps are bounded by the limit, and a run that got stuck has not reached it. -/
theorem stepCount_le_of_runWithin
    (returned : machine.runWithin limit word = .ok trace) :
    trace.stepCount ≤ limit ∧ (trace.rejected = true → trace.stepCount < limit) := by
  have threshold := (endsWith_of_runWithin returned).runWithin_eq limit
  rw [returned] at threshold
  split at threshold
  · next within =>
      rcases within with below | ⟨reached, notRejected⟩
      · exact ⟨Nat.le_of_lt below, fun _ => below⟩
      · exact ⟨Nat.le_of_eq reached, fun rejected => by simp [notRejected] at rejected⟩
  · contradiction

/-- A trace is longer than the limit when its marker comes after as many steps as are allowed. -/
theorem limit_lt_length_iff
    (returned : machine.runWithin limit word = .ok trace) :
    limit < trace.snapshots.length ↔
      trace.isAccepted = true ∧ trace.stepCount = limit := by
  have bounded := (stepCount_le_of_runWithin returned).1
  rw [trace.length_snapshots_eq]
  cases trace.isAccepted with
  | false => simp [bounded]
  | true =>
      simp only [↓reduceIte, true_and]
      omega

/-- There is such a trace exactly if the run without a limit is accepted after that many steps. -/
theorem exists_limit_lt_length_iff :
    (∃ trace,
        machine.runWithin limit word = .ok trace ∧ limit < trace.snapshots.length) ↔
      ∃ trace,
        machine.EndsWith word trace ∧
          trace.isAccepted = true ∧
          trace.stepCount = limit := by
  constructor
  · rintro ⟨trace, returned, longer⟩
    exact ⟨trace, endsWith_of_runWithin returned, (limit_lt_length_iff returned).mp longer⟩
  · rintro ⟨trace, ends, accepted, reached⟩
    have returned : machine.runWithin limit word = .ok trace := by
      rw [ends.runWithin_eq, if_pos (.inr ⟨reached, Trace.rejected_eq_false accepted⟩)]
    exact ⟨trace, returned, (limit_lt_length_iff returned).mpr ⟨accepted, reached⟩⟩

/--
Under a limit all traces on a word have at most as many snapshots as the limit says
exactly if the run without a limit is not accepted after just that many steps.  A
trace never has more than one snapshot above the limit, one that is not accepted has
none, and that of a run which got stuck stays below the limit.
-/
theorem run_withStepLimit_length_le_iff
    (machine : Automaton)
    (limit : Nat)
    (word : List Terminal) :
    ((∀ budget trace,
          (machine.withStepLimit limit).run budget word = .ok trace →
          trace.snapshots.length ≤ limit) ↔
        ¬ ∃ trace,
          machine.EndsWith word trace ∧
            trace.isAccepted = true ∧
            trace.stepCount = limit) ∧
      ∀ budget trace,
        (machine.withStepLimit limit).run budget word = .ok trace →
        trace.snapshots.length ≤ limit + 1 ∧
          (trace.isAccepted = false → trace.snapshots.length ≤ limit) ∧
          (trace.rejected = true → trace.snapshots.length < limit) := by
  simp only [run_withStepLimit_eq]
  refine ⟨?_, ?_⟩
  · rw [← exists_limit_lt_length_iff]
    push Not
    exact forall_const Nat
  · intro _ trace returned
    obtain ⟨bounded, belowIfStuck⟩ := stepCount_le_of_runWithin returned
    have length := trace.length_snapshots_eq
    refine ⟨?_, ?_, ?_⟩
    · rw [length]
      split <;> omega
    · intro notAccepted
      simpa [length, notAccepted] using bounded
    · intro rejected
      have notAccepted : trace.isAccepted = false := by
        simp [Trace.isAccepted, rejected]
      simpa [length, notAccepted] using belowIfStuck rejected

/-- Accepted after the one step that is allowed, and stuck after one of the two that are. -/
theorem run_withStepLimit_length_le_one_step :
    ∃ machine accepted rejected,
      assemble 3 0 [⟨"a"⟩, ⟨"b"⟩] [] [1]
          [⟨0, ⟨"a"⟩, [], 1, [], []⟩, ⟨0, ⟨"b"⟩, [], 2, [], []⟩] = .ok machine ∧
        (machine.EndsWith [⟨"a"⟩] accepted ∧
          accepted.isAccepted = true ∧
          accepted.stepCount = 1 ∧
          (machine.withStepLimit 1).run 0 [⟨"a"⟩] = .ok accepted ∧
          accepted.snapshots.length ≤ 1 + 1 ∧
          ¬ ∀ budget trace,
            (machine.withStepLimit 1).run budget [⟨"a"⟩] = .ok trace →
            trace.snapshots.length ≤ 1) ∧
        (machine.withStepLimit 2).run 0 [⟨"b"⟩, ⟨"b"⟩] = .ok rejected ∧
        rejected.rejected = true ∧
        rejected.snapshots.length < 2 := by
  obtain ⟨machine, assembled, passed⟩ := Except.exists_eq_ok_of_any
    (assemble 3 0 [⟨"a"⟩, ⟨"b"⟩] [] [1]
      [⟨0, ⟨"a"⟩, [], 1, [], []⟩, ⟨0, ⟨"b"⟩, [], 2, [], []⟩])
    (fun machine =>
      ((machine.withStepLimit 1).run 0 [⟨"a"⟩]).toOption.any (fun trace : Trace =>
          trace.isAccepted && trace.stepCount == 1) &&
        ((machine.withStepLimit 2).run 0 [⟨"b"⟩, ⟨"b"⟩]).toOption.any (·.rejected))
    (by cbv)
  rw [Bool.and_eq_true] at passed
  obtain ⟨accepted, acceptedRun, isAccepted⟩ := Except.exists_eq_ok_of_any _ _ passed.1
  obtain ⟨rejected, rejectedRun, isRejected⟩ := Except.exists_eq_ok_of_any _ _ passed.2
  rw [Bool.and_eq_true, beq_iff_eq] at isAccepted
  have ends : machine.EndsWith [⟨"a"⟩] accepted := by
    rw [run_withStepLimit_eq] at acceptedRun
    exact endsWith_of_runWithin acceptedRun
  obtain ⟨within_iff, bounded⟩ := machine.run_withStepLimit_length_le_iff 1 [⟨"a"⟩]
  obtain ⟨_, boundedOther⟩ := machine.run_withStepLimit_length_le_iff 2 [⟨"b"⟩, ⟨"b"⟩]
  refine ⟨machine, accepted, rejected, assembled, ?_, rejectedRun, isRejected,
    (boundedOther 0 rejected rejectedRun).2.2 isRejected⟩
  refine ⟨ends, isAccepted.1, isAccepted.2, acceptedRun, (bounded 0 accepted acceptedRun).1, ?_⟩
  rw [within_iff, not_not]
  exact ⟨accepted, ends, isAccepted.1, isAccepted.2⟩

/-- With one step allowed a trace of two snapshots is returned. -/
theorem limit_lt_length_accepted_after_one_step :
    ∃ machine trace,
      assemble 2 0 [⟨"a"⟩] [] [1] [⟨0, ⟨"a"⟩, [], 1, [], []⟩] = .ok machine ∧
        (machine.withStepLimit 1).stepLimit = some 1 ∧
        (machine.withStepLimit 1).run 0 [⟨"a"⟩] = .ok trace ∧
        trace.isAccepted = true ∧
        trace.snapshots.length = 2 ∧
        ¬ trace.snapshots.length ≤ 1 := by
  obtain ⟨machine, assembled, passed⟩ := Except.exists_eq_ok_of_any
    (assemble 2 0 [⟨"a"⟩] [] [1] [⟨0, ⟨"a"⟩, [], 1, [], []⟩])
    (fun machine =>
      ((machine.withStepLimit 1).run 0 [⟨"a"⟩]).toOption.any fun trace =>
        trace.isAccepted && trace.snapshots.length == 2)
    (by cbv)
  obtain ⟨trace, returned, passedTrace⟩ := Except.exists_eq_ok_of_any _ _ passed
  rw [Bool.and_eq_true, beq_iff_eq] at passedTrace
  have two : trace.snapshots.length = 2 := passedTrace.2
  exact ⟨machine, trace, assembled, rfl, returned, passedTrace.1, two, by omega⟩

end Automaton

end Pushdown
