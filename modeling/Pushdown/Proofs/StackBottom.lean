import Pushdown.Proofs.Path
import Pushdown.Proofs.Precedence

namespace Pushdown

/-!
# Steps do not depend on the bottom of the stack

More patterns are at the top of a deeper stack, but none of them can take the
place of a pattern that is inside the upper part: if that part has no wildcards
then the two patterns overlap, and the check on additions has told the
transitions apart.  So whatever is put below a stack, the same steps are taken
above it, and it stays where it is.
-/

namespace Stack

/-- The stack with the tokens of another one put below it. -/
def above
    (upper lower : Stack) :
    Stack :=
  ⟨lower.tokens ++ upper.tokens⟩

@[simp]
theorem toList_above
    (upper lower : Stack) :
    (upper.above lower).toList = upper.toList ++ lower.toList := by
  simp [above, toList]

/-- A pattern at the top stays there when tokens are put below. -/
theorem startsWith_above
    {upper : Stack}
    {pattern : List StackToken}
    (atTop : upper.startsWith pattern = true)
    (lower : Stack) :
    (upper.above lower).startsWith pattern = true := by
  rw [startsWith_iff] at atTop ⊢
  rw [toList_above]
  exact atTop.append lower.toList

/-- A pattern inside the upper part overlaps whatever else is at the top of the whole. -/
theorem WildcardFree.overlap_above
    {upper : Stack}
    (concrete : upper.WildcardFree)
    {first : List StackToken}
    (firstAtTop : upper.startsWith first = true)
    {lower : Stack}
    {second : List StackToken}
    (secondAtTop : (upper.above lower).startsWith second = true) :
    StackToken.overlap first second = true := by
  rw [startsWith_iff] at firstAtTop secondAtTop
  rw [toList_above] at secondAtTop
  exact firstAtTop.overlap_above concrete secondAtTop

/-- A transition whose pattern is inside the upper part leaves the lower part as it is. -/
theorem apply_above
    {upper : Stack}
    {transition : Transition}
    (atTop : upper.startsWith transition.pattern = true)
    (lower : Stack) :
    (upper.above lower).apply transition = (upper.apply transition).above lower := by
  have fits : transition.pattern.length ≤ upper.toList.length :=
    (StackToken.atTop_iff.mp (startsWith_iff.mp atTop)).1
  apply ext_toList
  simp only [apply, toList_replaceTop, toList_above, List.drop_append_of_le_length fits,
    List.append_assoc]

end Stack

namespace Configuration

/-- The configuration with the tokens of another stack put below its own. -/
def above
    (configuration : Configuration)
    (lower : Stack) :
    Configuration :=
  { configuration with stack := configuration.stack.above lower }

theorem follow_above
    {configuration : Configuration}
    {choice : Choice}
    (atTop : configuration.stack.startsWith choice.transition.pattern = true)
    (lower : Stack) :
    (configuration.above lower).follow choice = (configuration.follow choice).above lower := by
  simp only [follow, above, Stack.apply_above atTop lower]

end Configuration

namespace Automaton

/-! ## The choice -/

/-- What is preferred on the upper part is preferred on the whole stack. -/
theorem Preferred.above
    {row : List Transition}
    {next? : Option Terminal}
    {upper : Stack}
    {choice : Choice}
    (preferred : Preferred row next? upper choice)
    (compatible : row.Pairwise Transition.Compatible)
    (concrete : upper.WildcardFree)
    (lower : Stack) :
    Preferred row next? (upper.above lower) choice := by
  have chosenAtTop := preferred.startsWith
  obtain ⟨earlier, mode, later, split, member, answers, notEarlier⟩ := preferred
  have sameAnswers : ∀ {transition : Transition},
      upper.startsWith transition.pattern = true →
      ∀ input mode,
        transition.answers input (upper.above lower) mode =
          transition.answers input upper mode := by
    intro transition atTop
    apply Transition.answers_congr
    rw [atTop, Stack.startsWith_above atTop]
  refine ⟨earlier, mode, later, split, member, ?_, ?_⟩
  · rw [sameAnswers chosenAtTop]
    exact answers
  · intro probe isEarlier transition inRow
    by_cases atTop : upper.startsWith transition.pattern = true
    · rw [sameAnswers atTop]
      exact notEarlier probe isEarlier transition inRow
    · -- Only such a pattern could be new at the top, but inside the upper part it overlaps.
      have tokens : transition.pattern ≠ [] := by
        intro noTokens
        rw [noTokens, Stack.startsWith_iff] at atTop
        exact atTop (.nil _)
      have differ : choice.transition ≠ transition := by
        rintro rfl
        exact atTop chosenAtTop
      have fit := compatible.forall member inRow differ
      exact earlier_unanswered split member answers notEarlier fit tokens
        (concrete.overlap_above chosenAtTop) probe isEarlier

/-- What is chosen on a stack without wildcards is chosen above any other stack, too. -/
theorem WellFormed.select?_above
    {machine : Automaton}
    (wellFormed : machine.WellFormed)
    {upper : Stack}
    (concrete : upper.WildcardFree)
    {state : Nat}
    {next? : Option Terminal}
    {choice : Choice}
    (chosen : machine.select? state next? upper = some choice)
    (lower : Stack) :
    machine.select? state next? (upper.above lower) = some choice := by
  have preferred := preferred_of_select? chosen
  have preferredAbove := preferred.above (wellFormed.compatible state) concrete lower
  refine wellFormed.select?_eq_some_of_preferred preferredAbove fun other otherAtTop => ?_
  exact concrete.overlap_above preferred.startsWith otherAtTop

/-! ## The steps -/

/-- The transition that is chosen is applied, if its pattern is indeed at the top. -/
def step?
    (machine : Automaton)
    (configuration : Configuration) :
    Option (Choice × Configuration) :=
  match machine.choose? configuration with
  | none => none
  | some choice =>
      match configuration.stack.checkedApply choice.transition with
      | .error _ => none
      | .ok stack => some (choice, { configuration.follow choice with stack := stack })

/-- The choices of a number of steps, and where they lead; nothing asks whether a run is done. -/
def steps?
    (machine : Automaton) :
    Nat → Configuration → Option (List Choice × Configuration)
  | 0, configuration => some ([], configuration)
  | count + 1, configuration =>
      match machine.step? configuration with
      | none => none
      | some (choice, next) =>
          (machine.steps? count next).map fun (choices, last) => (choice :: choices, last)

/-- A step fails only where nothing can be chosen. -/
theorem step?_eq_some_iff
    {machine : Automaton}
    {configuration next : Configuration}
    {choice : Choice} :
    machine.step? configuration = some (choice, next) ↔
      machine.choose? configuration = some choice ∧
        configuration.follow choice = next := by
  unfold step?
  cases chosen : machine.choose? configuration with
  | none => simp
  | some other =>
      obtain ⟨_, _, atTop⟩ := mem_row_of_select? chosen
      simp only [Stack.checkedApply, atTop, ↓reduceIte, Option.some.injEq, Prod.mk.injEq]
      constructor
      · rintro ⟨rfl, rfl⟩
        exact ⟨rfl, rfl⟩
      · rintro ⟨rfl, rfl⟩
        exact ⟨rfl, rfl⟩

theorem steps?_succ_eq_some_iff
    {machine : Automaton}
    {count : Nat}
    {configuration last : Configuration}
    {choices : List Choice} :
    machine.steps? (count + 1) configuration = some (choices, last) ↔
      ∃ choice rest,
        machine.choose? configuration = some choice ∧
          machine.steps? count (configuration.follow choice) = some (rest, last) ∧
          choice :: rest = choices := by
  cases stepped : machine.step? configuration with
  | none =>
      simp only [steps?, stepped, reduceCtorEq, false_iff]
      rintro ⟨choice, rest, chosen, _⟩
      rw [step?_eq_some_iff.mpr ⟨chosen, rfl⟩] at stepped
      contradiction
  | some taken =>
      obtain ⟨chosen, follows⟩ := step?_eq_some_iff.mp stepped
      simp only [steps?, stepped, chosen, ← follows, Option.map_eq_some_iff, Prod.exists,
        Prod.mk.injEq, Option.some.injEq]
      constructor
      · rintro ⟨rest, _, stepsOn, rfl, rfl⟩
        exact ⟨_, rest, rfl, stepsOn, rfl⟩
      · rintro ⟨_, rest, rfl, stepsOn, rfl⟩
        exact ⟨rest, last, stepsOn, rfl, rfl⟩

/-- Steps from a stack without wildcards are taken above any other stack, too. -/
theorem WellFormed.steps?_above
    {machine : Automaton}
    (wellFormed : machine.WellFormed)
    (lower : Stack)
    {count : Nat}
    {configuration last : Configuration}
    {choices : List Choice}
    (concrete : configuration.stack.WildcardFree)
    (taken : machine.steps? count configuration = some (choices, last)) :
    machine.steps? count (configuration.above lower) = some (choices, last.above lower) := by
  induction count generalizing configuration choices with
  | zero =>
      cases taken
      rfl
  | succ count inductionHypothesis =>
      obtain ⟨choice, rest, chosen, stepsOn, rfl⟩ := steps?_succ_eq_some_iff.mp taken
      obtain ⟨_, _, atTop⟩ := mem_row_of_select? chosen
      have chosenAbove : machine.choose? (configuration.above lower) = some choice :=
        wellFormed.select?_above concrete chosen lower
      have stepsAbove :=
        inductionHypothesis (wellFormed.wildcardFree_follow concrete chosen) stepsOn
      rw [← Configuration.follow_above atTop lower] at stepsAbove
      exact steps?_succ_eq_some_iff.mpr ⟨choice, rest, chosenAbove, stepsAbove, rfl⟩

/--
What is chosen on a stack without wildcards is chosen above any other stack, too,
and any number of steps is taken there in the same way.
-/
theorem Built.steps_above_any_stack
    {machine : Automaton}
    (built : machine.Built)
    {upper : Stack}
    (concrete : upper.WildcardFree)
    (lower : Stack) :
    (∀ state next? choice,
        machine.select? state next? upper = some choice →
        machine.select? state next? (upper.above lower) = some choice) ∧
      ∀ count state unread choices last,
        machine.steps? count ⟨state, unread, upper⟩ = some (choices, last) →
        machine.steps? count ⟨state, unread, upper.above lower⟩ =
          some (choices, { last with stack := last.stack.above lower }) := by
  refine ⟨?_, ?_⟩
  · intro state next? choice chosen
    exact built.wellFormed.select?_above concrete chosen lower
  · intro count state unread choices last taken
    exact built.wellFormed.steps?_above lower concrete taken

/-- Below lie a wildcard and a token with which a longer pattern of the state is at the top, too. -/
theorem steps_above_longer_pattern :
    ∃ machine choices last,
      assemble 2 0 [⟨"a"⟩, ⟨"b"⟩, ⟨"x"⟩] [⟨"E"⟩] [1]
          [ ⟨0, ⟨"b"⟩, [.nonterminal ⟨"E"⟩, .state (.id 1), .terminal ⟨"x"⟩], 1, [], []⟩,
            ⟨0, ⟨"a"⟩, [.nonterminal ⟨"E"⟩], 1, [.terminal ⟨"x"⟩, .state (.id 0)], []⟩,
            ⟨1, .epsilon, [.terminal ⟨"x"⟩, .wildcard], 0, [.nonterminal ⟨"E"⟩], []⟩ ] =
          .ok machine ∧
        (Stack.empty.push (.nonterminal ⟨"E"⟩)).WildcardFree ∧
        machine.steps? 2 ⟨0, [⟨"a"⟩, ⟨"b"⟩], Stack.empty.push (.nonterminal ⟨"E"⟩)⟩ =
          some (choices, last) ∧
        choices.map (·.consumed) = [⟨"a"⟩, .epsilon] ∧
        ((Stack.empty.push (.nonterminal ⟨"E"⟩)).above
            ⟨#[.terminal ⟨"x"⟩, .wildcard]⟩).startsWith
          [.nonterminal ⟨"E"⟩, .state (.id 1), .terminal ⟨"x"⟩] = true ∧
        machine.steps? 2
            ⟨0, [⟨"a"⟩, ⟨"b"⟩],
              (Stack.empty.push (.nonterminal ⟨"E"⟩)).above
                ⟨#[.terminal ⟨"x"⟩, .wildcard]⟩⟩ =
          some (choices,
            { last with stack := last.stack.above ⟨#[.terminal ⟨"x"⟩, .wildcard]⟩ }) := by
  let upper : Stack := Stack.empty.push (.nonterminal ⟨"E"⟩)
  let lower : Stack := ⟨#[.terminal ⟨"x"⟩, .wildcard]⟩
  obtain ⟨machine, assembled, passed⟩ := Except.exists_eq_ok_of_any
    (assemble 2 0 [⟨"a"⟩, ⟨"b"⟩, ⟨"x"⟩] [⟨"E"⟩] [1]
      [ ⟨0, ⟨"b"⟩, [.nonterminal ⟨"E"⟩, .state (.id 1), .terminal ⟨"x"⟩], 1, [], []⟩,
        ⟨0, ⟨"a"⟩, [.nonterminal ⟨"E"⟩], 1, [.terminal ⟨"x"⟩, .state (.id 0)], []⟩,
        ⟨1, .epsilon, [.terminal ⟨"x"⟩, .wildcard], 0, [.nonterminal ⟨"E"⟩], []⟩ ])
    (fun machine =>
      (machine.steps? 2 ⟨0, [⟨"a"⟩, ⟨"b"⟩], upper⟩).any fun taken =>
        taken.1.map (·.consumed) == [⟨"a"⟩, .epsilon])
    (by cbv)
  obtain ⟨⟨choices, last⟩, taken, consumed⟩ := (Option.any_eq_true _ _).mp passed
  have concrete : upper.WildcardFree := by
    simp [upper, Stack.WildcardFree, StackToken.wildcard]
  have above := (Built.assemble assembled).steps_above_any_stack concrete lower
  exact ⟨machine, choices, last, assembled, concrete, taken, by simpa using consumed,
    by decide, above.2 2 0 _ choices last taken⟩

end Automaton

end Pushdown
