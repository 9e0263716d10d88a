import Pushdown.Automaton.Basic

namespace Pushdown

/-!
# Choosing a transition

At most four lookups decide which transition is taken.  Empty patterns go before
patterns at the top of the stack, and within each of these two groups reading
nothing goes before reading the next terminal.
-/

/-- A transition together with what it consumes of the input. -/
structure Choice where
  consumed : Terminal
  transition : Transition
deriving Repr, DecidableEq

namespace Automaton

/-- The lookups in the order of their precedence. -/
def probes
    (next? : Option Terminal) :
    List (Terminal × PatternMode) :=
  [.emptyPattern, .topOfStack].flatMap fun mode =>
    (Terminal.epsilon, mode) :: next?.toList.map (·, mode)

/-- What the first lookup that finds a transition finds. -/
def select?
    (machine : Automaton)
    (state : Nat)
    (next? : Option Terminal)
    (stack : Stack) :
    Option Choice :=
  (probes next?).findSome? fun (input, mode) =>
    (machine.table.lookup? state input stack mode).map fun transition =>
      ⟨input, transition⟩

/-- What is chosen is in the row of the state, reads what is consumed, and agrees with the stack. -/
theorem mem_row_of_select?
    {machine : Automaton}
    {state : Nat}
    {next? : Option Terminal}
    {stack : Stack}
    {choice : Choice}
    (chosen : machine.select? state next? stack = some choice) :
    choice.transition ∈ machine.table.row state ∧
      choice.transition.input = choice.consumed ∧
      stack.startsWith choice.transition.pattern = true := by
  obtain ⟨⟨input, mode⟩, _, found⟩ := List.exists_of_findSome?_eq_some chosen
  simp only [Option.map_eq_some_iff] at found
  obtain ⟨transition, located, rfl⟩ := found
  have member := List.mem_of_find?_eq_some located
  have answer := List.find?_some located
  simp only [Transition.answers, Bool.and_eq_true, beq_iff_eq] at answer
  refine ⟨member, answer.1, ?_⟩
  cases mode with
  | emptyPattern =>
      have noTokens := answer.2
      simp only [List.isEmpty_iff] at noTokens
      simp [noTokens, Stack.startsWith, Stack.agreesBelow]
  | topOfStack =>
      exact answer.2

end Automaton

end Pushdown
