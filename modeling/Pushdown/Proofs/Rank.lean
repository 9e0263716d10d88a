import Pushdown.Proofs.Precedence

namespace Pushdown

/-!
# The rank of a transition

The order of the lookups is a property of the transitions alone.  Patterns
without tokens go before patterns with tokens, and within each of these two groups
reading nothing goes before reading.  What is chosen in a row is a transition that
applies and has the least rank among those that apply.
-/

namespace Transition

/-- The place in the precedence, from zero to three. -/
def rank
    (transition : Transition) :
    Nat :=
  (if transition.pattern = [] then 0 else 2) + (if transition.input = .epsilon then 0 else 1)

/-- The transition reads nothing or the next terminal, and its pattern is at the top. -/
structure Applies
    (transition : Transition)
    (next? : Option Terminal)
    (stack : Stack) :
    Prop where
  input :
    transition.input = .epsilon ∨ next? = some transition.input
  pattern :
    StackToken.AtTop transition.pattern stack.toList

end Transition

namespace Automaton

/-! ## The ranks of the lookups -/

/-- The rank of the transitions that no other lookup finds earlier. -/
def probeRank
    (probe : Terminal × PatternMode) :
    Nat :=
  (if probe.2 = .emptyPattern then 0 else 2) + (if probe.1 = .epsilon then 0 else 1)

/-- The lookups come in the order of their ranks. -/
theorem probes_ascending
    (next? : Option Terminal) :
    (probes next?).Pairwise fun first second => probeRank first ≤ probeRank second := by
  cases next? with
  | none => simp [probes, probeRank]
  | some next =>
      by_cases readsNothing : next = .epsilon <;>
        simp [probes, probeRank, readsNothing]

/-- Whatever they read, lookups of empty patterns go before those at the top of the stack. -/
theorem probeRank_emptyPattern_lt
    (input other : Terminal) :
    probeRank (input, .emptyPattern) < probeRank (other, .topOfStack) := by
  simp only [probeRank, reduceCtorEq, ↓reduceIte]
  split <;> split <;> omega

/-- Two lookups of one rank, for the same next terminal, are the same. -/
theorem eq_of_probeRank_eq
    {next? : Option Terminal}
    {first second : Terminal × PatternMode}
    (isProbe : first ∈ probes next?)
    (otherIsProbe : second ∈ probes next?)
    (sameRank : probeRank first = probeRank second) :
    first = second := by
  obtain ⟨input, mode⟩ := first
  obtain ⟨otherInput, otherMode⟩ := second
  rw [mem_probes_iff] at isProbe otherIsProbe
  have sameMode : mode = otherMode := by
    cases mode <;> cases otherMode
    · rfl
    · exact absurd sameRank (Nat.ne_of_lt (probeRank_emptyPattern_lt _ _))
    · exact absurd sameRank (Nat.ne_of_gt (probeRank_emptyPattern_lt _ _))
    · rfl
  have sameInput : input = otherInput := by
    subst sameMode
    unfold probeRank at sameRank
    rcases isProbe with rfl | isNext <;> rcases otherIsProbe with rfl | otherIsNext
    · rfl
    · simpa [eq_comm] using sameRank
    · simpa using sameRank
    · exact Option.some.inj (isNext.symm.trans otherIsNext)
  rw [sameMode, sameInput]

/-! ## Which lookups find a transition -/

/-- The first lookup that may find a transition is the one of its rank. -/
theorem exists_probe_of_applies
    {transition : Transition}
    {next? : Option Terminal}
    {stack : Stack}
    (applies : transition.Applies next? stack) :
    ∃ mode,
      (transition.input, mode) ∈ probes next? ∧
        transition.answers transition.input stack mode = true ∧
        probeRank (transition.input, mode) = transition.rank := by
  by_cases noTokens : transition.pattern = []
  · refine ⟨.emptyPattern, mem_probes_iff.mpr applies.input, ?_, ?_⟩
    · exact Transition.answers_emptyPattern_iff.mpr ⟨rfl, noTokens⟩
    · simp [probeRank, Transition.rank, noTokens]
  · refine ⟨.topOfStack, mem_probes_iff.mpr applies.input, ?_, ?_⟩
    · exact Transition.answers_topOfStack_iff.mpr
        ⟨rfl, Stack.startsWith_iff.mpr applies.pattern⟩
    · simp [probeRank, Transition.rank, noTokens]

/-- What a lookup finds applies, and its rank is not above that of the lookup. -/
theorem applies_of_answers
    {transition : Transition}
    {next? : Option Terminal}
    {stack : Stack}
    {input : Terminal}
    {mode : PatternMode}
    (isProbe : (input, mode) ∈ probes next?)
    (answers : transition.answers input stack mode = true) :
    transition.Applies next? stack ∧ transition.rank ≤ probeRank (input, mode) := by
  rw [mem_probes_iff] at isProbe
  cases mode with
  | emptyPattern =>
      obtain ⟨rfl, noTokens⟩ := Transition.answers_emptyPattern_iff.mp answers
      refine ⟨⟨isProbe, ?_⟩, ?_⟩
      · rw [noTokens]
        exact .nil _
      · simp [probeRank, Transition.rank, noTokens]
  | topOfStack =>
      obtain ⟨rfl, atTop⟩ := Transition.answers_topOfStack_iff.mp answers
      refine ⟨⟨isProbe, Stack.startsWith_iff.mp atTop⟩, ?_⟩
      simp only [probeRank, Transition.rank, reduceCtorEq, ↓reduceIte]
      split <;> omega

/-- Nothing can be chosen exactly where no transition of the row applies. -/
theorem select?_eq_none_iff_not_applies
    {machine : Automaton}
    {state : Nat}
    {next? : Option Terminal}
    {stack : Stack} :
    machine.select? state next? stack = none ↔
      ∀ transition ∈ machine.table.row state, ¬ transition.Applies next? stack := by
  rw [select?_eq_none_iff]
  constructor
  · intro unanswered transition inRow applies
    obtain ⟨mode, isProbe, answers, _⟩ := exists_probe_of_applies applies
    have notAnswered := unanswered _ isProbe transition inRow
    rw [answers] at notAnswered
    contradiction
  · intro noneApplies probe isProbe transition inRow
    rw [← Bool.not_eq_true]
    intro answers
    exact noneApplies transition inRow (applies_of_answers isProbe answers).1

/-- The transition of a row that applies before all others. -/
structure Foremost
    (row : List Transition)
    (next? : Option Terminal)
    (stack : Stack)
    (transition : Transition) :
    Prop where
  inRow :
    transition ∈ row
  applies :
    transition.Applies next? stack
  least :
    ∀ other ∈ row, other.Applies next? stack → transition.rank ≤ other.rank

/-- What is preferred is a transition of least rank, together with what it reads. -/
theorem preferred_iff_foremost
    {row : List Transition}
    {next? : Option Terminal}
    {stack : Stack}
    {choice : Choice} :
    Preferred row next? stack choice ↔
      choice.consumed = choice.transition.input ∧
        Foremost row next? stack choice.transition := by
  constructor
  · rintro ⟨earlier, mode, later, split, member, answers, notEarlier⟩
    have ascending := probes_ascending next?
    rw [split, List.pairwise_append] at ascending
    have isProbe : (choice.consumed, mode) ∈ probes next? := by
      rw [split]
      exact List.mem_append_right _ List.mem_cons_self
    obtain ⟨applies, rankBelow⟩ := applies_of_answers isProbe answers
    refine ⟨?_, member, applies, ?_⟩
    · cases mode with
      | emptyPattern => exact (Transition.answers_emptyPattern_iff.mp answers).1.symm
      | topOfStack => exact (Transition.answers_topOfStack_iff.mp answers).1.symm
    · intro other otherInRow otherApplies
      obtain ⟨otherMode, otherIsProbe, otherAnswers, sameRank⟩ :=
        exists_probe_of_applies otherApplies
      rw [← sameRank]
      refine Nat.le_trans rankBelow ?_
      rw [split, List.mem_append, List.mem_cons] at otherIsProbe
      rcases otherIsProbe with isEarlier | same | isLater
      · have unanswered := notEarlier _ isEarlier other otherInRow
        rw [otherAnswers] at unanswered
        contradiction
      · rw [same]
      · exact (List.pairwise_cons.mp ascending.2.1).1 _ isLater
  · rintro ⟨consumes, member, applies, least⟩
    obtain ⟨mode, isProbe, answers, sameRank⟩ := exists_probe_of_applies applies
    obtain ⟨earlier, later, split, notEarlier⟩ := List.eq_append_cons_of_mem isProbe
    have ascending := probes_ascending next?
    rw [split, List.pairwise_append] at ascending
    refine ⟨earlier, mode, later, consumes ▸ split, member, consumes ▸ answers, ?_⟩
    rintro ⟨input, earlierMode⟩ isEarlier other otherInRow
    rw [← Bool.not_eq_true]
    intro otherAnswers
    have earlierIsProbe : (input, earlierMode) ∈ probes next? := by
      rw [split]
      exact List.mem_append_left _ isEarlier
    obtain ⟨otherApplies, otherBelow⟩ := applies_of_answers earlierIsProbe otherAnswers
    -- An earlier lookup has no greater rank, and cannot have a smaller one, so it is the same.
    have notAbove := ascending.2.2 _ isEarlier _ List.mem_cons_self
    have notBelow := least other otherInRow otherApplies
    have same := eq_of_probeRank_eq earlierIsProbe isProbe (by omega)
    exact notEarlier (same ▸ isEarlier)

end Automaton

end Pushdown
