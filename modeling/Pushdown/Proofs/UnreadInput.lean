import Pushdown.Proofs.StepLimit

namespace Pushdown

/-!
# What is not read yet has no influence

A step looks at the next unread terminal and at nothing behind it, and a run is not
done while something is unread.  So as long as a common front of two words is not read
through, the runs on them record the same steps, and if one of them ends the other one
ends in the same way.  Where the words differ is seen only after the last terminal of
the front has been read.
-/

namespace Configuration

/-- The same state and stack before other input. -/
def reading
    (configuration : Configuration)
    (unread : List Terminal) :
    Configuration :=
  { configuration with unread := unread }

theorem follow_reading
    (configuration : Configuration)
    (unread : List Terminal)
    (choice : Choice) :
    (configuration.reading unread).follow choice =
      (configuration.follow choice).reading
        (if choice.consumed.isEpsilon then unread else unread.drop 1) :=
  rfl

theorem isDone_reading_cons
    (configuration : Configuration)
    (symbol : Terminal)
    (rest : List Terminal) :
    (configuration.reading (symbol :: rest)).isDone = false :=
  rfl

end Configuration

namespace Run

/-- Where a run that is not done stands has no part in what is returned. -/
theorem outcome_congr
    {one other : Run}
    {limit : Nat}
    (sameSteps : one.snapshots = other.snapshots)
    (sameEnding : one.ending = other.ending)
    (notFinished : one.ending ≠ .finished) :
    one.outcome limit = other.outcome limit := by
  unfold outcome trace?
  rw [← sameEnding, ← sameSteps]
  cases ending : one.ending with
  | finished => exact (notFinished ending).elim
  | stuck => rfl
  | unfinished => rfl

theorem rejected_of_outcome
    {run : Run}
    {limit : Nat}
    {trace : Trace}
    (returned : run.outcome limit = .ok trace)
    (notFinished : run.ending ≠ .finished) :
    trace.rejected = true := by
  rcases outcome_eq_ok_iff.mp returned with ⟨finished, _⟩ | ⟨_, rfl⟩
  · exact (notFinished finished).elim
  · rfl

/-- A returned trace begins with the steps of the run. -/
theorem prefix_of_outcome
    {run : Run}
    {limit : Nat}
    {trace : Trace}
    (returned : run.outcome limit = .ok trace) :
    run.snapshots <+: trace.snapshots := by
  rcases outcome_eq_ok_iff.mp returned with ⟨_, rfl⟩ | ⟨_, rfl⟩
  · exact List.prefix_append _ _
  · exact List.prefix_rfl

end Run

namespace Automaton

/-- Of the unread terminals only the first one counts for the choice. -/
theorem choose?_reading_cons
    (machine : Automaton)
    (configuration : Configuration)
    (symbol : Terminal)
    (rest other : List Terminal) :
    machine.choose? (configuration.reading (symbol :: rest)) =
      machine.choose? (configuration.reading (symbol :: other)) :=
  rfl

theorem record_reading
    (machine : Automaton)
    (configuration : Configuration)
    (unread : List Terminal)
    (choice : Choice) :
    machine.record (configuration.reading unread) choice =
      machine.record configuration choice :=
  rfl

/-! ## Reading through a front -/

/-- The steps read all of a front, and the last of them reads its last terminal. -/
structure ReadsThrough
    (front : List Terminal)
    (steps : List Snapshot) :
    Prop where
  reads :
    consumedBy steps = front
  lastReads :
    ∀ final, steps.getLast? = some final → final.consumed ≠ .epsilon

theorem consumedBy_cons
    (snapshot : Snapshot)
    (rest : List Snapshot) :
    consumedBy (snapshot :: rest) =
      if snapshot.consumed = .epsilon then
        consumedBy rest
      else
        snapshot.consumed :: consumedBy rest := by
  by_cases readsNothing : snapshot.consumed = .epsilon <;> simp [consumedBy, readsNothing]

namespace ReadsThrough

theorem nil :
    ReadsThrough [] [] where
  reads := rfl
  lastReads := by simp

/-- A step that reads nothing comes before the reading of a front that has terminals. -/
theorem cons_of_epsilon
    {front : List Terminal}
    {steps : List Snapshot}
    {snapshot : Snapshot}
    (through : ReadsThrough front steps)
    (readsNothing : snapshot.consumed = .epsilon)
    (toRead : front ≠ []) :
    ReadsThrough front (snapshot :: steps) where
  reads := by rw [consumedBy_cons, if_pos readsNothing, through.reads]
  lastReads := by
    have recorded : steps ≠ [] := by
      rintro rfl
      exact toRead through.reads.symm
    intro final isLast
    obtain ⟨first, later, rfl⟩ := List.exists_cons_of_ne_nil recorded
    rw [List.getLast?_cons_cons] at isLast
    exact through.lastReads final isLast

/-- A step that reads a terminal comes before the reading of those behind it. -/
theorem cons
    {front : List Terminal}
    {steps : List Snapshot}
    {snapshot : Snapshot}
    (through : ReadsThrough front steps)
    (readsSomething : snapshot.consumed ≠ .epsilon) :
    ReadsThrough (snapshot.consumed :: front) (snapshot :: steps) where
  reads := by rw [consumedBy_cons, if_neg readsSomething, through.reads]
  lastReads := by
    intro final isLast
    cases steps with
    | nil =>
        cases isLast
        exact readsSomething
    | cons first later =>
        rw [List.getLast?_cons_cons] at isLast
        exact through.lastReads final isLast

/-- More steps than those that read through a front read at least as much. -/
theorem length_le
    {front : List Terminal}
    {steps snapshots : List Snapshot}
    (through : ReadsThrough front steps)
    (begins : steps <+: snapshots) :
    front.length ≤ (consumedBy snapshots).length := by
  obtain ⟨later, rfl⟩ := begins
  rw [consumedBy_append, through.reads, List.length_append]
  exact Nat.le_add_right _ _

end ReadsThrough

/-! ## Two runs -/

/-- How two runs compare whose words have a front in common. -/
inductive AlikeOn
    (front : List Terminal)
    (one other : Run) :
    Prop where
  /-- Both end in the same way before the front is read through. -/
  | within :
      (consumedBy one.snapshots).length < front.length →
      one.snapshots = other.snapshots →
      one.ending = other.ending →
      one.ending ≠ .finished →
      AlikeOn front one other
  /-- Both begin with the same steps, and these read through the front. -/
  | through
      {steps : List Snapshot} :
      ReadsThrough front steps →
      steps <+: one.snapshots →
      steps <+: other.snapshots →
      AlikeOn front one other

namespace AlikeOn

variable
  {front : List Terminal}
  {one other : Run}
  {snapshot : Snapshot}

theorem record_of_epsilon
    (alike : AlikeOn front one other)
    (readsNothing : snapshot.consumed = .epsilon)
    (toRead : front ≠ []) :
    AlikeOn front
      { one with snapshots := snapshot :: one.snapshots }
      { other with snapshots := snapshot :: other.snapshots } := by
  cases alike with
  | within fewer sameSteps sameEnding notFinished =>
      refine .within ?_ (congrArg (snapshot :: ·) sameSteps) sameEnding notFinished
      rwa [consumedBy_cons, if_pos readsNothing]
  | through through begins otherBegins =>
      exact .through (through.cons_of_epsilon readsNothing toRead)
        (List.cons_prefix_cons.mpr ⟨rfl, begins⟩)
        (List.cons_prefix_cons.mpr ⟨rfl, otherBegins⟩)

theorem record
    (alike : AlikeOn front one other)
    (readsSomething : snapshot.consumed ≠ .epsilon) :
    AlikeOn (snapshot.consumed :: front)
      { one with snapshots := snapshot :: one.snapshots }
      { other with snapshots := snapshot :: other.snapshots } := by
  cases alike with
  | within fewer sameSteps sameEnding notFinished =>
      refine .within ?_ (congrArg (snapshot :: ·) sameSteps) sameEnding notFinished
      rw [consumedBy_cons, if_neg readsSomething]
      exact Nat.succ_lt_succ fewer
  | through through begins otherBegins =>
      exact .through (through.cons readsSomething)
        (List.cons_prefix_cons.mpr ⟨rfl, begins⟩)
        (List.cons_prefix_cons.mpr ⟨rfl, otherBegins⟩)

end AlikeOn

/-- From the same state and stack, two runs before a common front are alike on it. -/
theorem runFrom_alikeOn
    (machine : Automaton)
    (budget : Nat)
    (configuration : Configuration)
    (front first second : List Terminal) :
    AlikeOn front
      (machine.runFrom budget (configuration.reading (front ++ first)) [])
      (machine.runFrom budget (configuration.reading (front ++ second)) []) := by
  -- The induction is on the budget; a step may leave the front as it is or shorten it by one.
  induction budget generalizing configuration front with
  | zero =>
      cases front with
      | nil => exact .through .nil List.nil_prefix List.nil_prefix
      | cons symbol rest =>
          have busy := configuration.isDone_reading_cons symbol
          rw [List.cons_append, List.cons_append,
            Halts.runFrom_eq (.unfinished (busy (rest ++ first)) rfl),
            Halts.runFrom_eq (.unfinished (busy (rest ++ second)) rfl)]
          exact .within (by simp [consumedBy]) rfl rfl (by simp)
  | succ budget inductionHypothesis =>
      cases front with
      | nil => exact .through .nil List.nil_prefix List.nil_prefix
      | cons symbol rest =>
          have busy := configuration.isDone_reading_cons symbol
          have sameChoice :=
            machine.choose?_reading_cons configuration symbol (rest ++ second) (rest ++ first)
          rw [List.cons_append, List.cons_append]
          cases chosen : machine.choose? (configuration.reading (symbol :: (rest ++ first))) with
          | none =>
              rw [Halts.runFrom_eq (.stuck (busy _) (Nat.zero_lt_succ budget) chosen),
                Halts.runFrom_eq
                  (.stuck (busy _) (Nat.zero_lt_succ budget) (sameChoice.trans chosen))]
              exact .within (by simp [consumedBy]) rfl rfl (by simp)
          | some choice =>
              have alike := inductionHypothesis (configuration.follow choice)
              rw [runFrom_cons (busy _) chosen,
                runFrom_cons (busy _) (sameChoice.trans chosen),
                Configuration.follow_reading, Configuration.follow_reading,
                record_reading, record_reading]
              by_cases readsNothing : choice.consumed = .epsilon
              · simp only [readsNothing, Terminal.isEpsilon_iff, ↓reduceIte]
                exact (alike (symbol :: rest)).record_of_epsilon readsNothing (by simp)
              · have isNext : choice.consumed = symbol := by
                  have reads := (consumed_of_choose? chosen).resolve_left readsNothing
                  exact (Option.some.inj reads).symm
                have readsSomething :
                    (machine.record configuration choice).consumed ≠ .epsilon :=
                  readsNothing
                simp only [Terminal.isEpsilon_iff, readsNothing, ↓reduceIte]
                rw [← isNext]
                exact (alike rest).record readsSomething

theorem history_alikeOn
    (machine : Automaton)
    (limit : Nat)
    (front first second : List Terminal) :
    AlikeOn front
      (machine.history limit (front ++ first))
      (machine.history limit (front ++ second)) :=
  machine.runFrom_alikeOn limit (machine.initial []) front first second

/-! ## What is recorded and returned -/

/-- The steps a run records under the limit of the automaton, also if it is cut short there. -/
def recorded
    (machine : Automaton)
    (budget : Nat)
    (word : List Terminal) :
    List Snapshot :=
  (machine.history (machine.limitOr budget) word).snapshots

/--
Let two words have a front in common.  Under every limit the runs on them either both
end before the front is read through, with the same steps and the same result, a
rejected trace or the error of the limit, or they record the same steps up to the one
that reads the last terminal of the front.  Without a limit, too, what the one run ends
with before the front is read through is a rejected trace, with which the other one ends.
-/
theorem run_alike_on_front
    (machine : Automaton)
    (front first second : List Terminal) :
    (∀ budget,
        ((consumedBy (machine.recorded budget (front ++ first))).length < front.length ∧
            machine.recorded budget (front ++ first) =
              machine.recorded budget (front ++ second) ∧
            machine.run budget (front ++ first) = machine.run budget (front ++ second) ∧
            ∀ trace,
              machine.run budget (front ++ first) = .ok trace →
              trace.rejected = true) ∨
          ∃ steps,
            ReadsThrough front steps ∧
              steps <+: machine.recorded budget (front ++ first) ∧
              steps <+: machine.recorded budget (front ++ second) ∧
              ∀ trace,
                machine.run budget (front ++ first) = .ok trace ∨
                  machine.run budget (front ++ second) = .ok trace →
                steps <+: trace.snapshots) ∧
      ∀ trace,
        machine.EndsWith (front ++ first) trace →
        (consumedBy trace.snapshots).length < front.length →
        trace.rejected = true ∧ machine.EndsWith (front ++ second) trace := by
  refine ⟨?_, ?_⟩
  · intro budget
    cases machine.history_alikeOn (machine.limitOr budget) front first second with
    | within fewer sameSteps sameEnding notFinished =>
        refine .inl ⟨fewer, sameSteps, ?_, ?_⟩
        · exact Run.outcome_congr sameSteps sameEnding notFinished
        · intro trace returned
          exact Run.rejected_of_outcome returned notFinished
    | @through steps through begins otherBegins =>
        refine .inr ⟨steps, through, begins, otherBegins, ?_⟩
        rintro trace (returned | returned)
        · exact begins.trans (Run.prefix_of_outcome returned)
        · exact otherBegins.trans (Run.prefix_of_outcome returned)
  · intro trace ends fewer
    obtain ⟨limit, returned⟩ := endsWith_iff_exists_budget.mp ends
    rw [run_unlimited_eq] at returned
    cases machine.history_alikeOn limit front first second with
    | within _ sameSteps sameEnding notFinished =>
        have otherReturned : machine.runWithin limit (front ++ second) = .ok trace :=
          (Run.outcome_congr sameSteps sameEnding notFinished).symm.trans returned
        exact ⟨Run.rejected_of_outcome returned notFinished, endsWith_of_runWithin otherReturned⟩
    | through through begins _ =>
        have enough := through.length_le (begins.trans (Run.prefix_of_outcome returned))
        omega

/-- One front is read through, with nothing behind it or more; the other one is stuck at its `ε`. -/
theorem run_alike_on_front_pushed :
    ∃ machine stuck,
      assemble 2 0 [⟨"a"⟩, ⟨"b"⟩] [] [1]
          [⟨0, ⟨"a"⟩, [], 0, [.terminal ⟨"a"⟩], []⟩, ⟨0, ⟨"b"⟩, [.terminal ⟨"a"⟩], 1, [], []⟩] =
          .ok machine ∧
        (∃ steps,
          ReadsThrough [⟨"a"⟩] steps ∧
            steps <+: machine.recorded 9 ([⟨"a"⟩] ++ []) ∧
            steps <+: machine.recorded 9 ([⟨"a"⟩] ++ [⟨"b"⟩])) ∧
        machine.EndsWith ([⟨"a"⟩, .epsilon] ++ [⟨"b"⟩]) stuck ∧
        (consumedBy stuck.snapshots).length < 2 ∧
        stuck.rejected = true ∧
        machine.EndsWith ([⟨"a"⟩, .epsilon] ++ []) stuck := by
  obtain ⟨machine, assembled, passed⟩ := Except.exists_eq_ok_of_any
    (assemble 2 0 [⟨"a"⟩, ⟨"b"⟩] [] [1]
      [⟨0, ⟨"a"⟩, [], 0, [.terminal ⟨"a"⟩], []⟩, ⟨0, ⟨"b"⟩, [.terminal ⟨"a"⟩], 1, [], []⟩])
    (fun machine =>
      (consumedBy (machine.recorded 9 [⟨"a"⟩])).length == 1 &&
        ({ machine with stepLimit := none }.run 9 [⟨"a"⟩, .epsilon, ⟨"b"⟩]).toOption.any
          fun trace : Trace => (consumedBy trace.snapshots).length == 1)
    (by cbv)
  rw [Bool.and_eq_true, beq_iff_eq] at passed
  obtain ⟨stuck, returned, readsOne⟩ := Except.exists_eq_ok_of_any _ _ passed.2
  rw [beq_iff_eq] at readsOne
  have fewer : (consumedBy stuck.snapshots).length < 2 := by omega
  have ends : machine.EndsWith ([⟨"a"⟩, .epsilon] ++ [⟨"b"⟩]) stuck :=
    endsWith_iff_exists_budget.mpr ⟨9, returned⟩
  obtain ⟨limited, _⟩ := machine.run_alike_on_front [⟨"a"⟩] [] [⟨"b"⟩]
  obtain ⟨_, unlimited⟩ := machine.run_alike_on_front [⟨"a"⟩, .epsilon] [⟨"b"⟩] []
  obtain ⟨rejected, otherEnds⟩ := unlimited stuck ends fewer
  refine ⟨machine, stuck, assembled, ?_, ends, fewer, rejected, otherEnds⟩
  rcases limited 9 with ⟨readsLess, _⟩ | ⟨steps, through, begins, otherBegins, _⟩
  · rw [List.append_nil, passed.1] at readsLess
    simp at readsLess
  · exact ⟨steps, through, begins, otherBegins⟩

end Automaton

end Pushdown
