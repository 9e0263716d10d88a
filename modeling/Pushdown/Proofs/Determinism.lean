import Pushdown.Proofs.Construction
import Pushdown.Proofs.Data.Except

namespace Pushdown

/-!
# The determinism check is exact

The check compares two patterns with each other, up to the length of the shorter
one.  What it decides is a fact about stacks: a transition is refused exactly
when one that is there already competes with it, that is, when some stack lets
both of them be taken in the same place of the precedence.
-/

namespace Transition

/--
Two transitions of a state compete when neither pattern asks anything and both
read the same, or when a stack of existing states, without wildcards, has both
patterns at its top and the inputs do not tell the transitions apart.
-/
def Competes
    (states : Nat)
    (existing added : Transition) :
    Prop :=
  (existing.pattern = [] ∧ added.pattern = [] ∧ existing.input = added.input) ∨
    (existing.pattern ≠ [] ∧ added.pattern ≠ [] ∧
      (∃ stack : Stack,
        stack.WildcardFree ∧
          stack.StatesBelow states ∧
          stack.startsWith existing.pattern = true ∧
          stack.startsWith added.pattern = true) ∧
      (existing.input = added.input ∨
        existing.input = .epsilon ∨ added.input = .epsilon))

/-- Patterns of existing states overlap on a stack of existing states. -/
theorem competes_iff_not_compatible
    {machine : Automaton}
    {existing added : Transition}
    (existingAdmitted : machine.Admits existing)
    (addedAdmitted : machine.Admits added) :
    existing.Competes machine.stateCount added ↔ ¬ existing.Compatible added := by
  have positive : 0 < machine.stateCount :=
    Nat.lt_of_le_of_lt (Nat.zero_le _) addedAdmitted.source
  have bounded : ∀ number,
      .state (.id number) ∈ existing.pattern ∨ .state (.id number) ∈ added.pattern →
      number < machine.stateCount := by
    rintro number (inExisting | inAdded)
    · exact existingAdmitted.pattern _ inExisting
    · exact addedAdmitted.pattern _ inAdded
  rw [Competes, ← Stack.overlap_iff_exists_startsWith positive bounded, compatible_iff]
  exact Decidable.not_not.symm

end Transition

namespace Automaton

/--
Among the transitions that pass all other checks, those are refused as ambiguous
that compete with a transition of their state.
-/
theorem Built.addTransition_ambiguous_iff_competes
    {machine : Automaton}
    (built : machine.Built)
    {transition : Transition}
    (faultless : machine.declarationFault? transition = none) :
    (∃ conflict,
        machine.addTransition transition =
          .error (.ambiguous transition.source conflict)) ↔
      ∃ existing ∈ machine.table.row transition.source,
        existing.Competes machine.stateCount transition := by
  have admitted := declarationFault?_eq_none_iff.mp faultless
  rw [addTransition_ambiguous_iff admitted]
  refine exists_congr fun existing => and_congr_right fun inRow => ?_
  have existingAdmitted := built.wellFormed.admits inRow
  exact (Transition.competes_iff_not_compatible existingAdmitted admitted).symm

/-- Wildcards on both sides, patterns of different lengths, and only one transition that reads. -/
theorem addTransition_competes_through_wildcards :
    ∃ machine : Automaton,
      assemble 3 0 [⟨"a"⟩, ⟨"x"⟩] [] [2]
          [⟨0, .epsilon, [.wildcard, .terminal ⟨"x"⟩], 1, [], []⟩] = .ok machine ∧
        machine.declarationFault?
          ⟨0, ⟨"a"⟩, [.state (.id 2), .terminal ⟨"x"⟩, .wildcard], 1, [], []⟩ = none ∧
        ∃ existing ∈ machine.table.row 0,
          existing.Competes machine.stateCount
            ⟨0, ⟨"a"⟩, [.state (.id 2), .terminal ⟨"x"⟩, .wildcard], 1, [], []⟩ := by
  let added : Transition :=
    ⟨0, ⟨"a"⟩, [.state (.id 2), .terminal ⟨"x"⟩, .wildcard], 1, [], []⟩
  obtain ⟨machine, assembled, passed⟩ := Except.exists_eq_ok_of_any
    (assemble 3 0 [⟨"a"⟩, ⟨"x"⟩] [] [2]
      [⟨0, .epsilon, [.wildcard, .terminal ⟨"x"⟩], 1, [], []⟩])
    (fun machine =>
      machine.declarationFault? added == none &&
        match machine.addTransition added with
        | .error (.ambiguous 0 _) => true
        | _ => false)
    (by cbv)
  rw [Bool.and_eq_true, beq_iff_eq] at passed
  refine ⟨machine, assembled, passed.1, ?_⟩
  apply ((Built.assemble assembled).addTransition_ambiguous_iff_competes passed.1).mp
  split at passed
  · next conflict refused => exact ⟨conflict, refused⟩
  · simp at passed

end Automaton

end Pushdown
