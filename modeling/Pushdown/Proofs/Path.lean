import Pushdown.Proofs.Precedence
import Pushdown.Run

namespace Pushdown

/-!
# Runs as paths

A path lists what is recorded of the steps from one configuration to another.
A run is a path together with the way in which it halts; the function that runs
and this description agree exactly.
-/

theorem Trace.rejected_eq_false
    {trace : Trace}
    (accepted : trace.isAccepted = true) :
    trace.rejected = false := by
  rw [isAccepted, Bool.and_eq_true, Bool.not_eq_true'] at accepted
  exact accepted.1

theorem Configuration.isDone_iff
    {configuration : Configuration} :
    configuration.isDone = true ↔
      configuration.unread = [] ∧ configuration.stack.depth ≤ 1 := by
  simp [isDone]

theorem Configuration.isDone_eq_false_iff
    {configuration : Configuration} :
    configuration.isDone = false ↔
      configuration.unread ≠ [] ∨ 1 < configuration.stack.depth := by
  rw [← Bool.not_eq_true, isDone_iff, not_and_or, Nat.not_le]

namespace Run

/-- The traces of finished runs are not rejected, those of stuck runs are. -/
theorem outcome_eq_ok_iff
    {run : Run}
    {limit : Nat}
    {trace : Trace} :
    run.outcome limit = .ok trace ↔
      (run.ending = .finished ∧ trace = ⟨run.snapshots ++ run.marker?.toList, false⟩) ∨
        (run.ending = .stuck ∧ trace = ⟨run.snapshots, true⟩) := by
  unfold outcome trace?
  cases run.ending <;> simp [eq_comm]

theorem outcome_eq_error_iff
    {run : Run}
    {limit : Nat}
    {error : RunError} :
    run.outcome limit = .error error ↔
      run.ending = .unfinished ∧ error = .stepLimitExceeded limit := by
  unfold outcome trace?
  cases run.ending <;> simp [eq_comm]

/-- A run that was not cut short has a trace. -/
theorem exists_trace?_eq_some
    {run : Run}
    (ended : run.ending ≠ .unfinished) :
    ∃ trace, run.trace? = some trace := by
  unfold trace?
  cases ending : run.ending with
  | finished => exact ⟨_, rfl⟩
  | stuck => exact ⟨_, rfl⟩
  | unfinished => exact (ended ending).elim

theorem finished_of_outcome
    {run : Run}
    {limit : Nat}
    {trace : Trace}
    (returned : run.outcome limit = .ok trace)
    (notRejected : trace.rejected = false) :
    run.ending = .finished := by
  rcases outcome_eq_ok_iff.mp returned with ⟨finished, _⟩ | ⟨_, rfl⟩
  · exact finished
  · contradiction

/-- Only a run that ends right after a step into an accepting state is given a marker. -/
theorem marker?_eq_none_iff
    {run : Run} :
    run.marker? = none ↔
      ∀ final, run.snapshots.getLast? = some final → final.accepting = false := by
  unfold marker?
  cases run.snapshots.getLast? <;> simp

theorem marker?_eq_some_iff
    {run : Run}
    {marker : Snapshot} :
    run.marker? = some marker ↔
      ∃ final,
        run.snapshots.getLast? = some final ∧
          final.accepting = true ∧
          marker =
            ⟨run.last.state, .epsilon, run.last.stack.toList, final.transition, true⟩ := by
  unfold marker?
  cases run.snapshots.getLast? with
  | none => simp
  | some final =>
      cases accepting : final.accepting with
      | false => simp [accepting]
      | true =>
          simp only [↓reduceIte, Option.some.injEq, exists_eq_left', accepting, true_and]
          exact eq_comm

/-- Only a snapshot that shows where the run ended makes its trace an accepted one. -/
theorem exists_marker?_eq_some
    {run : Run}
    (accepted : (Trace.mk (run.snapshots ++ run.marker?.toList) false).isAccepted = true) :
    ∃ marker,
      run.marker? = some marker ∧
        marker.state = run.last.state ∧
        marker.stack = run.last.stack.toList := by
  cases found : run.marker? with
  | none =>
      have notAccepting := marker?_eq_none_iff.mp found
      cases final : run.snapshots.getLast? with
      | none => simp [Trace.isAccepted, found, final] at accepted
      | some snapshot =>
          simp [Trace.isAccepted, found, final, notAccepting snapshot final] at accepted
  | some marker =>
      obtain ⟨final, _, _, rfl⟩ := marker?_eq_some_iff.mp found
      exact ⟨_, rfl, rfl, rfl⟩

end Run

namespace Automaton

/-- The steps that a machine takes from a configuration to another. -/
inductive Path
    (machine : Automaton) :
    Configuration → List Snapshot → Configuration → Prop where
  | nil (configuration : Configuration) :
      Path machine configuration [] configuration
  | cons
      {configuration last : Configuration}
      {choice : Choice}
      {snapshots : List Snapshot} :
      configuration.isDone = false →
      machine.choose? configuration = some choice →
      Path machine (configuration.follow choice) snapshots last →
      Path machine configuration
        (machine.record configuration choice :: snapshots) last

/-- How a run halts at a configuration when it may still record a number of steps. -/
inductive Halts
    (machine : Automaton)
    (remaining : Nat)
    (last : Configuration) :
    Ending → Prop where
  | finished :
      last.isDone = true →
      Halts machine remaining last .finished
  | stuck :
      last.isDone = false →
      0 < remaining →
      machine.choose? last = none →
      Halts machine remaining last .stuck
  | unfinished :
      last.isDone = false →
      remaining = 0 →
      Halts machine remaining last .unfinished

theorem runFrom_cons
    {machine : Automaton}
    {budget : Nat}
    {configuration : Configuration}
    {choice : Choice}
    (busy : configuration.isDone = false)
    (chosen : machine.choose? configuration = some choice) :
    machine.runFrom (budget + 1) configuration [] =
      { machine.runFrom budget (configuration.follow choice) [] with
        snapshots :=
          machine.record configuration choice ::
            (machine.runFrom budget (configuration.follow choice) []).snapshots } := by
  rw [runFrom]
  simp only [busy, Bool.false_eq_true, ↓reduceIte, chosen]
  rw [runFrom_eq]
  simp

namespace Halts

theorem runFrom_eq
    {machine : Automaton}
    {remaining : Nat}
    {last : Configuration}
    {ending : Ending}
    (halts : machine.Halts remaining last ending) :
    machine.runFrom remaining last [] = ⟨[], last, ending⟩ := by
  cases halts with
  | finished done =>
      unfold runFrom
      simp [done]
  | stuck busy positive noChoice =>
      obtain ⟨fewer, rfl⟩ := Nat.exists_eq_succ_of_ne_zero (Nat.ne_of_gt positive)
      unfold runFrom
      simp [busy, noChoice]
  | unfinished busy exhausted =>
      subst exhausted
      unfold runFrom
      simp [busy]

/-- Only a stuck run depends on the choice at its last configuration. -/
theorem transfer
    {machine other : Automaton}
    {remaining : Nat}
    {last : Configuration}
    {ending : Ending}
    (halts : machine.Halts remaining last ending)
    (sameChoice : ending = .stuck → machine.choose? last = other.choose? last) :
    other.Halts remaining last ending := by
  cases halts with
  | finished done => exact .finished done
  | stuck busy positive noChoice => exact .stuck busy positive (sameChoice rfl ▸ noChoice)
  | unfinished busy exhausted => exact .unfinished busy exhausted

/-- A run that ended may record more steps, and ends in the same way. -/
theorem weaken
    {machine : Automaton}
    {remaining more : Nat}
    {last : Configuration}
    {ending : Ending}
    (halts : machine.Halts remaining last ending)
    (ended : ending ≠ .unfinished)
    (enough : remaining ≤ more) :
    machine.Halts more last ending := by
  cases halts with
  | finished done => exact .finished done
  | stuck busy positive noChoice =>
      exact .stuck busy (Nat.lt_of_lt_of_le positive enough) noChoice
  | unfinished busy exhausted => exact (ended rfl).elim

end Halts

namespace Path

variable
  {machine : Automaton}
  {first last : Configuration}
  {snapshots : List Snapshot}

/-- A run that is not cut short follows a path to its end, and goes on from there. -/
theorem runFrom_eq
    (path : machine.Path first snapshots last)
    (remaining : Nat) :
    machine.runFrom (snapshots.length + remaining) first [] =
      { machine.runFrom remaining last [] with
        snapshots := snapshots ++ (machine.runFrom remaining last []).snapshots } := by
  induction path with
  | nil configuration => simp
  | cons busy chosen rest inductionHypothesis =>
      rw [List.length_cons, Nat.add_right_comm, runFrom_cons busy chosen, inductionHypothesis]
      simp

/-- A path together with the way in which it halts is a run. -/
theorem runFrom_eq_of_halts
    (path : machine.Path first snapshots last)
    {remaining : Nat}
    {ending : Ending}
    (halts : machine.Halts remaining last ending) :
    machine.runFrom (snapshots.length + remaining) first [] =
      ⟨snapshots, last, ending⟩ := by
  rw [path.runFrom_eq, halts.runFrom_eq]
  simp

/-- A run that may record fewer steps than a path has stays unfinished. -/
theorem runFrom_unfinished
    (path : machine.Path first snapshots last)
    {budget : Nat}
    (short : budget < snapshots.length) :
    (machine.runFrom budget first []).ending = .unfinished := by
  induction path generalizing budget with
  | nil configuration => simp at short
  | cons busy chosen rest inductionHypothesis =>
      cases budget with
      | zero => simp [Halts.runFrom_eq (.unfinished busy rfl)]
      | succ budget =>
          rw [runFrom_cons busy chosen]
          exact inductionHypothesis (Nat.lt_of_succ_lt_succ short)

/-- What every step preserves holds at the end of a path. -/
theorem invariant
    {holds : Configuration → Prop}
    (preserved :
      ∀ {configuration choice},
        holds configuration →
        machine.choose? configuration = some choice →
        holds (configuration.follow choice))
    (path : machine.Path first snapshots last)
    (initially : holds first) :
    holds last := by
  induction path with
  | nil configuration => exact initially
  | cons busy chosen rest inductionHypothesis =>
      exact inductionHypothesis (preserved initially chosen)

/-- A path is no longer than a measure that every step decreases. -/
theorem length_add_le
    {measure : Configuration → Nat}
    (decreasing :
      ∀ {configuration choice},
        machine.choose? configuration = some choice →
        measure (configuration.follow choice) < measure configuration)
    (path : machine.Path first snapshots last) :
    snapshots.length + measure last ≤ measure first := by
  induction path with
  | nil configuration => simp
  | cons busy chosen rest inductionHypothesis =>
      have decreases := decreasing chosen
      rw [List.length_cons]
      omega

/-- A path is one of another machine, too, if that chooses the same at its configurations. -/
theorem transfer
    {other : Automaton}
    (sameAccepting : machine.acceptStates = other.acceptStates)
    {holds : Configuration → Prop}
    (preserved :
      ∀ {configuration choice},
        holds configuration →
        machine.choose? configuration = some choice →
        holds (configuration.follow choice))
    (path : machine.Path first snapshots last)
    (agree :
      ∀ {configuration choice},
        holds configuration →
        machine.record configuration choice ∈ snapshots →
        machine.choose? configuration = some choice →
        other.choose? configuration = some choice)
    (initially : holds first) :
    other.Path first snapshots last := by
  induction path with
  | nil configuration => exact .nil configuration
  | @cons configuration last choice snapshots busy chosen rest inductionHypothesis =>
      have sameRecord :
          machine.record configuration choice = other.record configuration choice := by
        simp only [record, isAccepting, sameAccepting]
      rw [sameRecord]
      refine .cons busy (agree initially List.mem_cons_self chosen) ?_
      refine inductionHypothesis ?_ (preserved initially chosen)
      intro configuration choice holdsHere recorded chosenHere
      exact agree holdsHere (List.mem_cons_of_mem _ recorded) chosenHere

/-- The transitions of a path are in the table. -/
theorem mem_transitions
    (path : machine.Path first snapshots last)
    {snapshot : Snapshot}
    (member : snapshot ∈ snapshots) :
    snapshot.transition ∈ machine.table.transitions := by
  induction path with
  | nil configuration => simp at member
  | cons busy chosen rest inductionHypothesis =>
      rcases List.mem_cons.mp member with rfl | later
      · exact Table.mem_transitions_of_mem_row (mem_row_of_select? chosen).1
      · exact inductionHypothesis later

end Path

/-- The path that a run takes, and how it halts. -/
theorem exists_path_runFrom
    (machine : Automaton)
    (budget : Nat)
    (first : Configuration) :
    ∃ remaining,
      budget = (machine.runFrom budget first []).snapshots.length + remaining ∧
        machine.Path first
          (machine.runFrom budget first []).snapshots
          (machine.runFrom budget first []).last ∧
        machine.Halts remaining
          (machine.runFrom budget first []).last
          (machine.runFrom budget first []).ending := by
  induction budget generalizing first with
  | zero =>
      cases done : first.isDone with
      | true =>
          rw [Halts.runFrom_eq (.finished done)]
          exact ⟨0, rfl, .nil first, .finished done⟩
      | false =>
          rw [Halts.runFrom_eq (.unfinished done rfl)]
          exact ⟨0, rfl, .nil first, .unfinished done rfl⟩
  | succ budget inductionHypothesis =>
      cases done : first.isDone with
      | true =>
          rw [Halts.runFrom_eq (.finished done)]
          exact ⟨budget + 1, by simp, .nil first, .finished done⟩
      | false =>
          cases chosen : machine.choose? first with
          | none =>
              have halts := Halts.stuck done (Nat.zero_lt_succ budget) chosen
              rw [halts.runFrom_eq]
              exact ⟨budget + 1, by simp, .nil first, halts⟩
          | some choice =>
              obtain ⟨remaining, total, path, halts⟩ :=
                inductionHypothesis (first.follow choice)
              rw [runFrom_cons done chosen]
              refine ⟨remaining, ?_, .cons done chosen path, halts⟩
              rw [List.length_cons]
              omega

/-- The path of the run on a word, and how it halts. -/
theorem exists_path_history
    (machine : Automaton)
    (limit : Nat)
    (word : List Terminal) :
    ∃ remaining,
      limit = (machine.history limit word).snapshots.length + remaining ∧
        machine.Path (machine.initial word)
          (machine.history limit word).snapshots
          (machine.history limit word).last ∧
        machine.Halts remaining
          (machine.history limit word).last
          (machine.history limit word).ending :=
  machine.exists_path_runFrom limit (machine.initial word)

/-- The run on a word is the path that halts under the limit, and the way in which it does. -/
theorem history_eq_iff
    {machine : Automaton}
    {limit : Nat}
    {word : List Terminal}
    {snapshots : List Snapshot}
    {last : Configuration}
    {ending : Ending} :
    machine.history limit word = ⟨snapshots, last, ending⟩ ↔
      machine.Path (machine.initial word) snapshots last ∧
        snapshots.length ≤ limit ∧
        machine.Halts (limit - snapshots.length) last ending := by
  constructor
  · intro sameRun
    obtain ⟨remaining, total, path, halts⟩ := machine.exists_path_history limit word
    rw [sameRun] at total path halts
    have recorded : limit = snapshots.length + remaining := total
    refine ⟨path, Nat.le.intro recorded.symm, ?_⟩
    rwa [recorded, Nat.add_sub_cancel_left]
  · rintro ⟨path, within, halts⟩
    have sameRun := path.runFrom_eq_of_halts halts
    rwa [Nat.add_sub_cancel' within] at sameRun

/-- A run that ended is the same under any greater limit. -/
theorem history_eq_of_le
    {machine : Automaton}
    {limit more : Nat}
    {word : List Terminal}
    (ended : (machine.history limit word).ending ≠ .unfinished)
    (enough : limit ≤ more) :
    machine.history more word = machine.history limit word := by
  obtain ⟨remaining, total, path, halts⟩ := machine.exists_path_history limit word
  obtain ⟨extra, rfl⟩ := Nat.exists_eq_add_of_le enough
  have sameRun := path.runFrom_eq_of_halts
    (halts.weaken ended (Nat.le_add_right remaining extra))
  rw [← Nat.add_assoc, ← total] at sameRun
  exact sameRun

/-- The limit of the automaton itself is not looked at while running. -/
theorem runFrom_stepLimit
    (machine : Automaton)
    (stepLimit : Option Nat)
    (budget : Nat)
    (configuration : Configuration)
    (earlier : List Snapshot) :
    { machine with stepLimit := stepLimit }.runFrom budget configuration earlier =
      machine.runFrom budget configuration earlier := by
  induction budget generalizing configuration earlier with
  | zero => rfl
  | succ budget inductionHypothesis =>
      unfold runFrom
      simp only [inductionHypothesis]
      rfl

theorem runWithin_stepLimit
    (machine : Automaton)
    (stepLimit : Option Nat)
    (limit : Nat)
    (word : List Terminal) :
    { machine with stepLimit := stepLimit }.runWithin limit word =
      machine.runWithin limit word :=
  congrArg (·.outcome limit) (machine.runFrom_stepLimit stepLimit limit _ [])

/-- A trace that is returned under a limit is returned under any greater limit. -/
theorem runWithin_eq_of_le
    {machine : Automaton}
    {limit more : Nat}
    {word : List Terminal}
    {trace : Trace}
    (returned : machine.runWithin limit word = .ok trace)
    (enough : limit ≤ more) :
    machine.runWithin more word = .ok trace := by
  rw [runWithin, Run.outcome_eq_ok_iff] at returned ⊢
  have ended : (machine.history limit word).ending ≠ .unfinished := by
    intro unfinished
    simp [unfinished] at returned
  rwa [history_eq_of_le ended enough]

/-- A run ends under a limit that no path is long enough for. -/
theorem history_ending_of_length_lt
    {machine : Automaton}
    {limit : Nat}
    {word : List Terminal}
    (short : ∀ {snapshots last},
      machine.Path (machine.initial word) snapshots last → snapshots.length < limit) :
    (machine.history limit word).ending ≠ .unfinished := by
  obtain ⟨remaining, total, path, halts⟩ := machine.exists_path_history limit word
  have fewer := short path
  intro unfinished
  rw [unfinished] at halts
  cases halts with
  | unfinished _ exhausted => omega

/-! ## What is read along a path -/

/-- What is consumed is nothing, or the next terminal of the input. -/
theorem consumed_of_choose?
    {machine : Automaton}
    {configuration : Configuration}
    {choice : Choice}
    (chosen : machine.choose? configuration = some choice) :
    choice.consumed = .epsilon ∨ configuration.unread.head? = some choice.consumed := by
  obtain ⟨⟨input, mode⟩, isProbe, found⟩ := List.exists_of_findSome?_eq_some chosen
  obtain ⟨transition, _, rfl⟩ := Option.map_eq_some_iff.mp found
  exact mem_probes_iff.mp isProbe

/-- The terminals that are consumed in recorded steps. -/
def consumedBy
    (snapshots : List Snapshot) :
    List Terminal :=
  (snapshots.map (·.consumed)).filter (· ≠ .epsilon)

theorem consumedBy_append
    (first second : List Snapshot) :
    consumedBy (first ++ second) = consumedBy first ++ consumedBy second := by
  simp [consumedBy]

/-- What is unread is what the steps of a path consume, and what is left unread at its end. -/
theorem Path.unread_eq
    {machine : Automaton}
    {first last : Configuration}
    {snapshots : List Snapshot}
    (path : machine.Path first snapshots last) :
    first.unread = consumedBy snapshots ++ last.unread := by
  induction path with
  | nil configuration => rfl
  | @cons configuration last choice snapshots busy chosen rest inductionHypothesis =>
      by_cases readsNothing : choice.consumed = .epsilon
      · simpa [consumedBy, record, Configuration.follow, readsNothing] using inductionHypothesis
      · have isNext := (consumed_of_choose? chosen).resolve_left readsNothing
        obtain ⟨others, shape⟩ := List.head?_eq_some_iff.mp isNext
        simpa [consumedBy, record, Configuration.follow, readsNothing, shape]
          using inductionHypothesis

/-! ## Where a snapshot is taken -/

/-- Every snapshot of a path shows a configuration that the path leads through. -/
theorem Path.exists_of_snapshot
    {machine : Automaton}
    {first last : Configuration}
    {earlier later : List Snapshot}
    {snapshot : Snapshot}
    (path : machine.Path first (earlier ++ snapshot :: later) last) :
    ∃ here,
      machine.Path first earlier here ∧
        snapshot.state = here.state ∧
        snapshot.stack = here.stack.toList := by
  induction earlier generalizing first with
  | nil =>
      cases path with
      | cons _ _ _ => exact ⟨first, .nil first, rfl, rfl⟩
  | cons _ rest inductionHypothesis =>
      cases path with
      | cons busy chosen onwards =>
          obtain ⟨here, before, shown⟩ := inductionHypothesis onwards
          exact ⟨here, .cons busy chosen before, shown⟩

/-- Every snapshot of a returned trace shows a configuration that the run comes to. -/
theorem exists_path_of_snapshot
    {machine : Automaton}
    {limit : Nat}
    {word : List Terminal}
    {trace : Trace}
    (returned : machine.runWithin limit word = .ok trace)
    {earlier later : List Snapshot}
    {snapshot : Snapshot}
    (shape : trace.snapshots = earlier ++ snapshot :: later) :
    ∃ here,
      machine.Path (machine.initial word) earlier here ∧
        snapshot.state = here.state ∧
        snapshot.stack = here.stack.toList ∧
        here.unread = word.drop (consumedBy earlier).length := by
  obtain ⟨_, _, path, _⟩ := machine.exists_path_history limit word
  have shown :
      ∃ here,
        machine.Path (machine.initial word) earlier here ∧
          snapshot.state = here.state ∧
          snapshot.stack = here.stack.toList := by
    rcases Run.outcome_eq_ok_iff.mp returned with ⟨_, rfl⟩ | ⟨_, rfl⟩
    · cases found : (machine.history limit word).marker? with
      | none =>
          rw [found, Option.toList_none, List.append_nil] at shape
          change (machine.history limit word).snapshots = _ at shape
          exact (shape ▸ path).exists_of_snapshot
      | some marker =>
          -- The snapshot is that of a step, or the marker, which shows the last configuration.
          rw [found, Option.toList_some] at shape
          rcases List.eq_nil_or_concat later with rfl | ⟨rest, final, rfl⟩
          · obtain ⟨steps, isMarker⟩ := List.append_inj' shape rfl
            obtain ⟨_, _, _, rfl⟩ := Run.marker?_eq_some_iff.mp found
            cases isMarker
            exact ⟨_, steps ▸ path, rfl, rfl⟩
          · rw [List.concat_eq_append, ← List.cons_append, ← List.append_assoc] at shape
            exact ((List.append_inj' shape rfl).1 ▸ path).exists_of_snapshot
    · change (machine.history limit word).snapshots = _ at shape
      exact (shape ▸ path).exists_of_snapshot
  obtain ⟨here, before, sameState, sameStack⟩ := shown
  have reads : word = consumedBy earlier ++ here.unread := before.unread_eq
  refine ⟨here, before, sameState, sameStack, ?_⟩
  rw [congrArg (List.drop _) reads, List.drop_left]

/-! ## The stack along a path -/

theorem initial_wildcardFree
    (machine : Automaton)
    (word : List Terminal) :
    (machine.initial word).stack.WildcardFree := by
  simp [initial, Stack.WildcardFree]

/-- Replacements hold no wildcards, so no step of a well-formed automaton brings one in. -/
theorem WellFormed.wildcardFree_follow
    {machine : Automaton}
    (wellFormed : machine.WellFormed)
    {configuration : Configuration}
    {choice : Choice}
    (concrete : configuration.stack.WildcardFree)
    (chosen : machine.choose? configuration = some choice) :
    (configuration.follow choice).stack.WildcardFree := by
  obtain ⟨inRow, _, _⟩ := mem_row_of_select? chosen
  have replacementConcrete := (wellFormed.admits inRow).wildcardFree
  intro member
  simp only [Configuration.follow, Stack.apply, Stack.toList_replaceTop,
    List.mem_append] at member
  rcases member with inReplacement | below
  · exact replacementConcrete inReplacement
  · exact concrete (List.mem_of_mem_drop below)

theorem WellFormed.wildcardFree_of_path
    {machine : Automaton}
    (wellFormed : machine.WellFormed)
    {word : List Terminal}
    {steps : List Snapshot}
    {here : Configuration}
    (path : machine.Path (machine.initial word) steps here) :
    here.stack.WildcardFree :=
  path.invariant wellFormed.wildcardFree_follow (machine.initial_wildcardFree word)

end Automaton

end Pushdown
