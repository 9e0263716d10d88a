import Mathlib.Data.List.Pairwise
import Pushdown.Automaton.Selection
import Pushdown.Proofs.Construction
import Pushdown.Proofs.Data.List

namespace Pushdown

/-!
# Which transition has precedence

A row is searched in the order in which it was filled, but what is found does
not depend on that order: on a stack without wildcards, compatible transitions
leave one choice that answers the earliest lookup answered at all.
-/

namespace Transition

instance : Std.Symm Compatible :=
  ⟨fun _ _ => Compatible.symm⟩

/-- Compatible transitions with overlapping patterns are told apart by what they read. -/
theorem Compatible.inputs_differ
    {first second : Transition}
    (compatible : first.Compatible second)
    (firstTokens : first.pattern ≠ [])
    (secondTokens : second.pattern ≠ [])
    (overlaps : StackToken.overlap first.pattern second.pattern = true) :
    first.input ≠ second.input ∧ first.input ≠ .epsilon ∧ second.input ≠ .epsilon := by
  have notOverlapping := fun inputs =>
    compatible_iff.mp compatible (.inr ⟨firstTokens, secondTokens, overlaps, inputs⟩)
  exact ⟨fun same => notOverlapping (.inl same),
    fun firstReadsNothing => notOverlapping (.inr (.inl firstReadsNothing)),
    fun secondReadsNothing => notOverlapping (.inr (.inr secondReadsNothing))⟩

theorem answers_emptyPattern_iff
    {transition : Transition}
    {input : Terminal}
    {stack : Stack} :
    transition.answers input stack .emptyPattern = true ↔
      transition.input = input ∧ transition.pattern = [] := by
  simp [answers]

theorem answers_topOfStack_iff
    {transition : Transition}
    {input : Terminal}
    {stack : Stack} :
    transition.answers input stack .topOfStack = true ↔
      transition.input = input ∧ stack.startsWith transition.pattern = true := by
  simp [answers]

/-- Of the stack only counts whether the pattern is at its top. -/
theorem answers_congr
    {transition : Transition}
    {first second : Stack}
    (sameTop :
      first.startsWith transition.pattern = second.startsWith transition.pattern)
    (input : Terminal)
    (mode : PatternMode) :
    transition.answers input first mode = transition.answers input second mode := by
  cases mode with
  | emptyPattern => rfl
  | topOfStack => simp only [answers, sameTop]

end Transition

namespace Automaton

/-! ## The order of the lookups -/

/-- A lookup reads nothing or the next terminal. -/
theorem mem_probes_iff
    {next? : Option Terminal}
    {input : Terminal}
    {mode : PatternMode} :
    (input, mode) ∈ probes next? ↔ input = .epsilon ∨ next? = some input := by
  cases mode <;> cases next? <;> simp [probes, eq_comm]

/--
Only lookups of empty patterns come before such a lookup.  Before a lookup at the
top of the stack comes that of empty patterns with the same input, and every
other lookup at the top that comes first reads nothing.
-/
theorem probes_split
    {next? : Option Terminal}
    {earlier later : List (Terminal × PatternMode)}
    {input : Terminal}
    {mode : PatternMode}
    (split : probes next? = earlier ++ (input, mode) :: later) :
    (mode = .emptyPattern ∧ ∀ probe ∈ earlier, probe.2 = .emptyPattern) ∨
      (mode = .topOfStack ∧
        (input, .emptyPattern) ∈ earlier ∧
        ∀ other, (other, .topOfStack) ∈ earlier → other = .epsilon) := by
  -- There are two or four lookups, so the earlier ones can be listed.
  cases next? with
  | none =>
      rcases earlier with _ | ⟨first, _ | ⟨second, rest⟩⟩ <;>
        simp [probes] at split <;> grind
  | some next =>
      rcases earlier with _ | ⟨first, _ | ⟨second, _ | ⟨third, _ | ⟨fourth, rest⟩⟩⟩⟩ <;>
        simp [probes] at split <;> grind

/-! ## The preferred choice -/

/-- The choice answers a lookup, and no transition of the row answers an earlier lookup. -/
def Preferred
    (row : List Transition)
    (next? : Option Terminal)
    (stack : Stack)
    (choice : Choice) :
    Prop :=
  ∃ earlier mode later,
    probes next? = earlier ++ (choice.consumed, mode) :: later ∧
      choice.transition ∈ row ∧
      choice.transition.answers choice.consumed stack mode = true ∧
      ∀ probe ∈ earlier, ∀ transition ∈ row,
        transition.answers probe.1 stack probe.2 = false

theorem lookup_eq_none_iff
    {machine : Automaton}
    {state : Nat}
    {stack : Stack}
    {probe : Terminal × PatternMode} :
    (machine.table.lookup? state probe.1 stack probe.2).map (Choice.mk probe.1) = none ↔
      ∀ transition ∈ machine.table.row state,
        transition.answers probe.1 stack probe.2 = false := by
  simp [Table.lookup?, List.find?_eq_none]

/-- What is chosen is preferred. -/
theorem preferred_of_select?
    {machine : Automaton}
    {state : Nat}
    {next? : Option Terminal}
    {stack : Stack}
    {choice : Choice}
    (chosen : machine.select? state next? stack = some choice) :
    Preferred (machine.table.row state) next? stack choice := by
  obtain ⟨earlier, ⟨input, mode⟩, later, split, found, notEarlier⟩ :=
    List.findSome?_eq_some_iff.mp chosen
  obtain ⟨transition, located, rfl⟩ := Option.map_eq_some_iff.mp found
  have answers := List.find?_some located
  refine ⟨earlier, mode, later, split, List.mem_of_find?_eq_some located, answers, ?_⟩
  intro probe member
  exact lookup_eq_none_iff.mp (notEarlier probe member)

/-- Nothing can be chosen exactly when no transition answers a lookup. -/
theorem select?_eq_none_iff
    {machine : Automaton}
    {state : Nat}
    {next? : Option Terminal}
    {stack : Stack} :
    machine.select? state next? stack = none ↔
      ∀ probe ∈ probes next?, ∀ transition ∈ machine.table.row state,
        transition.answers probe.1 stack probe.2 = false := by
  rw [select?, List.findSome?_eq_none_iff]
  exact forall₂_congr fun probe _ => lookup_eq_none_iff

namespace Preferred

variable
  {row : List Transition}
  {next? : Option Terminal}
  {stack : Stack}

/-- Only the members of the row matter, not their order. -/
theorem of_mem_iff
    {other : List Transition}
    {choice : Choice}
    (same : ∀ transition, transition ∈ row ↔ transition ∈ other)
    (preferred : Preferred row next? stack choice) :
    Preferred other next? stack choice := by
  obtain ⟨earlier, mode, later, split, member, answers, notEarlier⟩ := preferred
  refine ⟨earlier, mode, later, split, (same _).mp member, answers, ?_⟩
  intro probe isEarlier transition inOther
  exact notEarlier probe isEarlier transition ((same _).mpr inOther)

/-- A choice at the top of the stack has a pattern with tokens. -/
theorem pattern_ne_nil
    {earlier later : List (Terminal × PatternMode)}
    {transition : Transition}
    (split : probes next? = earlier ++ (transition.input, .topOfStack) :: later)
    (member : transition ∈ row)
    (notEarlier :
      ∀ probe ∈ earlier, ∀ transition ∈ row,
        transition.answers probe.1 stack probe.2 = false) :
    transition.pattern ≠ [] := by
  intro noTokens
  rcases probes_split split with ⟨isEmptyPattern, _⟩ | ⟨_, emptyPatternEarlier, _⟩
  · contradiction
  · have unanswered := notEarlier _ emptyPatternEarlier transition member
    have answered : transition.answers transition.input stack .emptyPattern = true :=
      Transition.answers_emptyPattern_iff.mpr ⟨rfl, noTokens⟩
    rw [answered] at unanswered
    contradiction

/--
A compatible transition with tokens answers no lookup before a choice that it
overlaps, on whatever stack.
-/
theorem earlier_unanswered
    {earlier later : List (Terminal × PatternMode)}
    {mode : PatternMode}
    {choice : Choice}
    (split : probes next? = earlier ++ (choice.consumed, mode) :: later)
    (member : choice.transition ∈ row)
    (answers : choice.transition.answers choice.consumed stack mode = true)
    (notEarlier :
      ∀ probe ∈ earlier, ∀ transition ∈ row,
        transition.answers probe.1 stack probe.2 = false)
    {other : Transition}
    (compatible : choice.transition.Compatible other)
    (tokens : other.pattern ≠ [])
    {otherStack : Stack}
    (overlaps :
      otherStack.startsWith other.pattern = true →
      StackToken.overlap choice.transition.pattern other.pattern = true) :
    ∀ probe ∈ earlier, other.answers probe.1 otherStack probe.2 = false := by
  rintro ⟨input, earlierMode⟩ isEarlier
  rw [← Bool.not_eq_true]
  intro answered
  cases earlierMode with
  | emptyPattern =>
      exact tokens (Transition.answers_emptyPattern_iff.mp answered).2
  | topOfStack =>
      -- At the top of the stack only lookups that read nothing come before another one.
      rcases probes_split split with ⟨_, emptyPatterns⟩ | ⟨rfl, _, readNothing⟩
      · have isEmptyPattern := emptyPatterns _ isEarlier
        contradiction
      · obtain ⟨readsInput, otherAtTop⟩ := Transition.answers_topOfStack_iff.mp answered
        have readsConsumed := (Transition.answers_topOfStack_iff.mp answers).1
        have chosenTokens := pattern_ne_nil (readsConsumed ▸ split) member notEarlier
        have inputs := compatible.inputs_differ chosenTokens tokens (overlaps otherAtTop)
        exact inputs.2.2 (readsInput.trans (readNothing input isEarlier))

/-- Two transitions of one row that overlap and answer the same preferred lookup are the same. -/
theorem eq_of_answers
    (compatible : row.Pairwise Transition.Compatible)
    {earlier later : List (Terminal × PatternMode)}
    {input : Terminal}
    {mode : PatternMode}
    (split : probes next? = earlier ++ (input, mode) :: later)
    (notEarlier :
      ∀ probe ∈ earlier, ∀ transition ∈ row,
        transition.answers probe.1 stack probe.2 = false)
    {first second : Transition}
    (overlaps : StackToken.overlap first.pattern second.pattern = true)
    (firstInRow : first ∈ row)
    (secondInRow : second ∈ row)
    (firstAnswers : first.answers input stack mode = true)
    (secondAnswers : second.answers input stack mode = true) :
    first = second := by
  refine Decidable.byContradiction fun differ => ?_
  have fit := compatible.forall firstInRow secondInRow differ
  cases mode with
  | emptyPattern =>
      rw [Transition.answers_emptyPattern_iff] at firstAnswers secondAnswers
      obtain ⟨rfl, firstEmpty⟩ := firstAnswers
      exact Transition.compatible_iff.mp fit
        (.inl ⟨firstEmpty, secondAnswers.2, secondAnswers.1.symm⟩)
  | topOfStack =>
      rw [Transition.answers_topOfStack_iff] at firstAnswers secondAnswers
      obtain ⟨rfl, _⟩ := firstAnswers
      -- Without tokens they would have answered the earlier lookup of empty patterns.
      have firstTokens := pattern_ne_nil split firstInRow notEarlier
      have secondTokens :=
        pattern_ne_nil (secondAnswers.1 ▸ split) secondInRow notEarlier
      exact (fit.inputs_differ firstTokens secondTokens overlaps).1 secondAnswers.1.symm

theorem startsWith
    {choice : Choice}
    (preferred : Preferred row next? stack choice) :
    stack.startsWith choice.transition.pattern = true := by
  obtain ⟨_, mode, _, _, _, answers, _⟩ := preferred
  cases mode with
  | emptyPattern =>
      have noTokens := (Transition.answers_emptyPattern_iff.mp answers).2
      rw [noTokens, Stack.startsWith_iff]
      exact .nil _
  | topOfStack => exact (Transition.answers_topOfStack_iff.mp answers).2

/-- Compatible transitions leave one preferred choice among those that overlap. -/
theorem unique
    (compatible : row.Pairwise Transition.Compatible)
    {first second : Choice}
    (overlaps :
      StackToken.overlap first.transition.pattern second.transition.pattern = true)
    (firstPreferred : Preferred row next? stack first)
    (secondPreferred : Preferred row next? stack second) :
    first = second := by
  obtain ⟨earlier, mode, later, split, member, answers, notEarlier⟩ := firstPreferred
  obtain ⟨otherEarlier, otherMode, otherLater, otherSplit, otherMember, otherAnswers,
    notOtherEarlier⟩ := secondPreferred
  have firstNotEarlier : (first.consumed, mode) ∉ otherEarlier := by
    intro isEarlier
    have unanswered := notOtherEarlier _ isEarlier _ member
    rw [answers] at unanswered
    contradiction
  have secondNotEarlier : (second.consumed, otherMode) ∉ earlier := by
    intro isEarlier
    have unanswered := notEarlier _ isEarlier _ otherMember
    rw [otherAnswers] at unanswered
    contradiction
  have sameLookup :=
    List.eq_of_split (split.symm.trans otherSplit) firstNotEarlier secondNotEarlier
  simp only [Prod.mk.injEq] at sameLookup
  obtain ⟨sameInput, rfl⟩ := sameLookup
  have sameTransition :=
    eq_of_answers compatible split notEarlier overlaps member otherMember answers
      (sameInput ▸ otherAnswers)
  cases first
  cases second
  simp_all

end Preferred

/-- What is preferred is chosen, if nothing else can be preferred without overlapping it. -/
theorem WellFormed.select?_eq_some_of_preferred
    {machine : Automaton}
    (wellFormed : machine.WellFormed)
    {state : Nat}
    {next? : Option Terminal}
    {stack : Stack}
    {choice : Choice}
    (preferred : Preferred (machine.table.row state) next? stack choice)
    (overlaps :
      ∀ other : Choice,
        stack.startsWith other.transition.pattern = true →
        StackToken.overlap choice.transition.pattern other.transition.pattern = true) :
    machine.select? state next? stack = some choice := by
  cases chosen : machine.select? state next? stack with
  | none =>
      obtain ⟨earlier, mode, later, split, member, answers, _⟩ := preferred
      have unanswered := select?_eq_none_iff.mp chosen (choice.consumed, mode)
        (by simp [split]) _ member
      rw [answers] at unanswered
      contradiction
  | some other =>
      have otherPreferred := preferred_of_select? chosen
      have same := preferred.unique (wellFormed.compatible state)
        (overlaps other otherPreferred.startsWith) otherPreferred
      rw [same]

/-- On a stack without wildcards, a well-formed automaton chooses what is preferred. -/
theorem WellFormed.select?_eq_some_iff
    {machine : Automaton}
    (wellFormed : machine.WellFormed)
    {state : Nat}
    {next? : Option Terminal}
    {stack : Stack}
    (concrete : stack.WildcardFree)
    {choice : Choice} :
    machine.select? state next? stack = some choice ↔
      Preferred (machine.table.row state) next? stack choice := by
  constructor
  · exact preferred_of_select?
  · intro preferred
    refine wellFormed.select?_eq_some_of_preferred preferred fun other otherAtTop => ?_
    exact concrete.overlap preferred.startsWith otherAtTop

end Automaton

end Pushdown
