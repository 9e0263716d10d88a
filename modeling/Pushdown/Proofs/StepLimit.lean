import Pushdown.Proofs.Path

namespace Pushdown

/-!
# Where a limit cuts a run

A run without a limit ends when it is done or stuck, after a number of steps that no
budget has a part in.  A limit below that number cuts the run, and a limit above it
changes nothing.  At the number itself only a run that is done is left whole, as the
limit is looked at before it is known that a run is stuck.
-/

namespace Trace

/-- The steps of a trace; the snapshot that shows where an accepted run ended is none. -/
def stepCount
    (trace : Trace) :
    Nat :=
  if trace.isAccepted then trace.snapshots.length - 1 else trace.snapshots.length

@[simp]
theorem stepCount_rejected
    (snapshots : List Snapshot) :
    (Trace.mk snapshots true).stepCount = snapshots.length := by
  simp [stepCount, isAccepted]

end Trace

namespace Run

/-- A trace is accepted exactly if a marker was put at its end. -/
theorem isAccepted_iff_marker?
    {run : Run} :
    (Trace.mk (run.snapshots ++ run.marker?.toList) false).isAccepted = true ↔
      run.marker? ≠ none := by
  constructor
  · intro accepted
    obtain ⟨marker, found, _, _⟩ := exists_marker?_eq_some accepted
    simp [found]
  · intro marked
    obtain ⟨marker, found⟩ := Option.ne_none_iff_exists'.mp marked
    obtain ⟨final, _, _, rfl⟩ := marker?_eq_some_iff.mp found
    simp [Trace.isAccepted, found]

/-- The marker is not counted. -/
@[simp]
theorem stepCount_finished
    (run : Run) :
    (Trace.mk (run.snapshots ++ run.marker?.toList) false).stepCount = run.snapshots.length := by
  unfold Trace.stepCount
  simp only [isAccepted_iff_marker?, List.length_append]
  cases run.marker? <;> simp

end Run

namespace Automaton

/-- Without a limit, a run ends with a trace: it follows its choices until it is done or stuck. -/
inductive EndsWith
    (machine : Automaton)
    (word : List Terminal) :
    Trace → Prop where
  | finished
      {snapshots : List Snapshot}
      {last : Configuration} :
      machine.Path (machine.initial word) snapshots last →
      last.isDone = true →
      EndsWith machine word
        ⟨snapshots ++ (Run.mk snapshots last .finished).marker?.toList, false⟩
  | stuck
      {snapshots : List Snapshot}
      {last : Configuration} :
      machine.Path (machine.initial word) snapshots last →
      last.isDone = false →
      machine.choose? last = none →
      EndsWith machine word ⟨snapshots, true⟩

variable
  {machine : Automaton}
  {word : List Terminal}
  {trace : Trace}

theorem run_withStepLimit_eq
    (machine : Automaton)
    (limit budget : Nat)
    (word : List Terminal) :
    (machine.withStepLimit limit).run budget word = machine.runWithin limit word :=
  machine.runWithin_stepLimit (some limit) limit word

theorem run_unlimited_eq
    (machine : Automaton)
    (budget : Nat)
    (word : List Terminal) :
    { machine with stepLimit := none }.run budget word = machine.runWithin budget word :=
  machine.runWithin_stepLimit none budget word

/-- A path that is longer than the limit is cut. -/
theorem Path.runWithin_eq_error
    {snapshots : List Snapshot}
    {last : Configuration}
    (path : machine.Path (machine.initial word) snapshots last)
    {limit : Nat}
    (short : limit < snapshots.length) :
    machine.runWithin limit word = .error (.stepLimitExceeded limit) :=
  Run.outcome_eq_error_iff.mpr ⟨path.runFrom_unfinished short, rfl⟩

/-- Within the limit a path counts together with the way in which it halts. -/
theorem Path.runWithin_eq
    {snapshots : List Snapshot}
    {last : Configuration}
    (path : machine.Path (machine.initial word) snapshots last)
    {limit : Nat}
    {ending : Ending}
    (within : snapshots.length ≤ limit)
    (halts : machine.Halts (limit - snapshots.length) last ending) :
    machine.runWithin limit word = (Run.mk snapshots last ending).outcome limit :=
  congrArg (·.outcome limit) (history_eq_iff.mpr ⟨path, within, halts⟩)

/-- What is returned under a limit is what the run without a limit ends with. -/
theorem endsWith_of_runWithin
    {limit : Nat}
    (returned : machine.runWithin limit word = .ok trace) :
    machine.EndsWith word trace := by
  cases taken : machine.history limit word with
  | mk snapshots last ending =>
      obtain ⟨path, _, halts⟩ := history_eq_iff.mp taken
      rw [runWithin, taken] at returned
      cases halts with
      | finished done =>
          cases returned
          exact .finished path done
      | stuck busy _ noChoice =>
          cases returned
          exact .stuck path busy noChoice
      | unfinished _ _ => contradiction

/-- The threshold: a run that is stuck needs one more than its steps. -/
theorem EndsWith.runWithin_eq
    (ends : machine.EndsWith word trace)
    (limit : Nat) :
    machine.runWithin limit word =
      if trace.stepCount < limit ∨ trace.stepCount = limit ∧ trace.rejected = false then
        .ok trace
      else
        .error (.stepLimitExceeded limit) := by
  cases ends with
  | @finished snapshots last path done =>
      have steps :
          (Trace.mk (snapshots ++ (Run.mk snapshots last .finished).marker?.toList)
            false).stepCount = snapshots.length :=
        Run.stepCount_finished (Run.mk snapshots last .finished)
      rw [steps]
      by_cases short : limit < snapshots.length
      · rw [if_neg (by omega)]
        exact path.runWithin_eq_error short
      · rw [if_pos (by grind)]
        exact path.runWithin_eq (by omega) (.finished done)
  | @stuck snapshots last path busy noChoice =>
      rw [Trace.stepCount_rejected]
      rcases Nat.lt_trichotomy limit snapshots.length with short | exact | long
      · rw [if_neg (by simp; omega)]
        exact path.runWithin_eq_error short
      · -- The limit is reached before it is seen that there is no choice.
        rw [if_neg (by simp; omega)]
        exact path.runWithin_eq (by omega) (.unfinished busy (by omega))
      · rw [if_pos (by simp; omega)]
        exact path.runWithin_eq (by omega) (.stuck busy (by omega) noChoice)

/-- The run without a limit ends exactly if some budget is enough for it. -/
theorem endsWith_iff_exists_budget :
    machine.EndsWith word trace ↔
      ∃ budget, { machine with stepLimit := none }.run budget word = .ok trace := by
  simp only [run_unlimited_eq]
  constructor
  · intro ends
    refine ⟨trace.stepCount + 1, ?_⟩
    rw [ends.runWithin_eq, if_pos (by omega)]
  · rintro ⟨budget, returned⟩
    exact endsWith_of_runWithin returned

/-- A run that always goes on does not end. -/
theorem not_endsWith_of_invariant
    (holds : Configuration → Prop)
    (initially : holds (machine.initial word))
    (goesOn :
      ∀ {configuration},
        holds configuration →
        configuration.isDone = false ∧
          ∃ choice,
            machine.choose? configuration = some choice ∧
              holds (configuration.follow choice)) :
    ¬ machine.EndsWith word trace := by
  have preserved : ∀ {configuration choice},
      holds configuration →
      machine.choose? configuration = some choice →
      holds (configuration.follow choice) := by
    intro configuration choice holdsHere chosen
    obtain ⟨_, other, otherChosen, holdsNext⟩ := goesOn holdsHere
    rw [chosen, Option.some.injEq] at otherChosen
    exact otherChosen ▸ holdsNext
  intro ends
  cases ends with
  | finished path done =>
      have busy := (goesOn (path.invariant preserved initially)).1
      simp [busy] at done
  | stuck path _ noChoice =>
      obtain ⟨_, choice, chosen, _⟩ := goesOn (path.invariant preserved initially)
      simp [chosen] at noChoice

/--
A run that ends without a limit after some steps ends with the same trace under every
greater limit, and under the limit of just that many steps if it does not get stuck;
every other limit is exceeded.  A run that does not end exceeds every limit.  So what is
returned under a limit is returned under every greater one.
-/
theorem run_withStepLimit_threshold
    (machine : Automaton)
    (word : List Terminal) :
    (∀ trace,
      machine.EndsWith word trace ↔
        ∃ budget, { machine with stepLimit := none }.run budget word = .ok trace) ∧
    (∀ trace,
      machine.EndsWith word trace →
      ∀ limit budget,
        (machine.withStepLimit limit).run budget word =
          if trace.stepCount < limit ∨ trace.stepCount = limit ∧ trace.rejected = false then
            .ok trace
          else
            .error (.stepLimitExceeded limit)) ∧
    ((∀ trace, ¬ machine.EndsWith word trace) →
      ∀ limit budget,
        (machine.withStepLimit limit).run budget word = .error (.stepLimitExceeded limit)) ∧
    ∀ trace limit more budget,
      limit ≤ more →
      (machine.withStepLimit limit).run budget word = .ok trace →
      (machine.withStepLimit more).run budget word = .ok trace := by
  simp only [run_withStepLimit_eq]
  refine ⟨fun _ => endsWith_iff_exists_budget, ?_, ?_, ?_⟩
  · intro trace ends limit _
    exact ends.runWithin_eq limit
  · intro endless limit _
    cases result : machine.runWithin limit word with
    | ok trace => exact (endless trace (endsWith_of_runWithin result)).elim
    | error error => rw [(Run.outcome_eq_error_iff.mp result).2]
  · intro trace limit more _ enough returned
    exact runWithin_eq_of_le returned enough

/-- A word that is accepted and one that is rejected after a step, and one without an end. -/
theorem run_withStepLimit_threshold_one_step :
    ∃ machine accepted rejected,
      assemble 3 0 [⟨"a"⟩, ⟨"b"⟩] [] [1]
          [ ⟨0, ⟨"a"⟩, [], 1, [], []⟩,
            ⟨0, ⟨"b"⟩, [], 2, [], []⟩,
            ⟨1, .epsilon, [], 1, [], []⟩ ] = .ok machine ∧
        (machine.EndsWith [⟨"a"⟩] accepted ∧
          accepted.stepCount = 1 ∧
          accepted.rejected = false ∧
          (machine.withStepLimit 0).run 0 [⟨"a"⟩] = .error (.stepLimitExceeded 0) ∧
          (machine.withStepLimit 1).run 0 [⟨"a"⟩] = .ok accepted) ∧
        (machine.EndsWith [⟨"b"⟩, ⟨"b"⟩] rejected ∧
          rejected.stepCount = 1 ∧
          rejected.rejected = true ∧
          (machine.withStepLimit 1).run 0 [⟨"b"⟩, ⟨"b"⟩] = .error (.stepLimitExceeded 1) ∧
          (machine.withStepLimit 2).run 0 [⟨"b"⟩, ⟨"b"⟩] = .ok rejected) ∧
        (∀ trace, ¬ machine.EndsWith [⟨"a"⟩, ⟨"b"⟩] trace) ∧
        (machine.withStepLimit 9).run 0 [⟨"a"⟩, ⟨"b"⟩] = .error (.stepLimitExceeded 9) := by
  let toAccepting : Transition := ⟨0, ⟨"a"⟩, [], 1, [], []⟩
  let idle : Transition := ⟨1, .epsilon, [], 1, [], []⟩
  let afterwards : Configuration := ⟨1, [⟨"b"⟩], .empty⟩
  obtain ⟨machine, assembled, passed⟩ := Except.exists_eq_ok_of_any
    (assemble 3 0 [⟨"a"⟩, ⟨"b"⟩] [] [1] [toAccepting, ⟨0, ⟨"b"⟩, [], 2, [], []⟩, idle])
    (fun machine =>
      (({ machine with stepLimit := none }.run 2 [⟨"a"⟩]).toOption.any fun trace : Trace =>
          trace.stepCount == 1 && !trace.rejected) &&
        (({ machine with stepLimit := none }.run 2 [⟨"b"⟩, ⟨"b"⟩]).toOption.any fun trace : Trace =>
          trace.stepCount == 1 && trace.rejected) &&
        machine.choose? (machine.initial [⟨"a"⟩, ⟨"b"⟩]) == some ⟨⟨"a"⟩, toAccepting⟩ &&
        machine.choose? afterwards == some ⟨.epsilon, idle⟩)
    (by cbv)
  simp only [Bool.and_eq_true, beq_iff_eq] at passed
  obtain ⟨⟨⟨passedAccepted, passedRejected⟩, chosenFirst⟩, chosenLater⟩ := passed
  obtain ⟨accepted, acceptedRun, isAccepted⟩ := Except.exists_eq_ok_of_any _ _ passedAccepted
  obtain ⟨rejected, rejectedRun, isRejected⟩ := Except.exists_eq_ok_of_any _ _ passedRejected
  simp only [Bool.and_eq_true, beq_iff_eq, Bool.not_eq_true'] at isAccepted isRejected
  have endless : ∀ trace, ¬ machine.EndsWith [⟨"a"⟩, ⟨"b"⟩] trace := by
    intro trace
    refine not_endsWith_of_invariant
      (fun configuration =>
        configuration = machine.initial [⟨"a"⟩, ⟨"b"⟩] ∨ configuration = afterwards)
      (.inl rfl) ?_
    rintro configuration (rfl | rfl)
    · exact ⟨rfl, _, chosenFirst, .inr rfl⟩
    · exact ⟨rfl, _, chosenLater, .inr rfl⟩
  obtain ⟨unlimitedA, limitedA, _, _⟩ := machine.run_withStepLimit_threshold [⟨"a"⟩]
  obtain ⟨unlimitedB, limitedB, _, _⟩ := machine.run_withStepLimit_threshold [⟨"b"⟩, ⟨"b"⟩]
  obtain ⟨_, _, limitedEndless, _⟩ := machine.run_withStepLimit_threshold [⟨"a"⟩, ⟨"b"⟩]
  have endsAccepted := (unlimitedA accepted).mpr ⟨2, acceptedRun⟩
  have endsRejected := (unlimitedB rejected).mpr ⟨2, rejectedRun⟩
  refine ⟨machine, accepted, rejected, assembled, ?_, ?_, endless, limitedEndless endless 9 0⟩
  · refine ⟨endsAccepted, isAccepted.1, isAccepted.2, ?_, ?_⟩
    · rw [limitedA accepted endsAccepted, if_neg (by simp [isAccepted])]
    · rw [limitedA accepted endsAccepted, if_pos (by simp [isAccepted])]
  · refine ⟨endsRejected, isRejected.1, isRejected.2, ?_, ?_⟩
    · rw [limitedB rejected endsRejected, if_neg (by simp [isRejected])]
    · rw [limitedB rejected endsRejected, if_pos (by simp [isRejected])]

end Automaton

end Pushdown
