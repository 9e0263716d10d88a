import Pushdown.Stack

namespace Pushdown

/-!
# Transition tables

The transitions of a state form a row, in the order in which they were added.
A new transition is refused when it is ambiguous with one in its row; the first
such transition is the one that is reported.
-/

/-- One row of transitions for every state. -/
structure Table where
  rows : Array (List Transition)
deriving Repr, DecidableEq, Inhabited

/-- An existing transition with which a new one is ambiguous. -/
structure Conflict where
  cause : Ambiguity
  existing : Transition
deriving Repr, DecidableEq

/-- What a lookup asks of the pattern of a transition. -/
inductive PatternMode where
  /-- The pattern has no tokens. -/
  | emptyPattern
  /-- The pattern is at the top of the stack; an empty one always is. -/
  | topOfStack
deriving Repr, DecidableEq

namespace Transition

/-- Whether a lookup may find the transition. -/
def answers
    (transition : Transition)
    (input : Terminal)
    (stack : Stack)
    (mode : PatternMode) :
    Bool :=
  transition.input == input &&
    match mode with
    | .emptyPattern => transition.pattern.isEmpty
    | .topOfStack => stack.startsWith transition.pattern

end Transition

namespace Table

/-- The table without transitions for a number of states. -/
def empty
    (states : Nat) :
    Table :=
  ⟨Array.replicate states []⟩

def stateCount
    (table : Table) :
    Nat :=
  table.rows.size

/-- The transitions of a state; a state that is not in the table has none. -/
def row
    (table : Table)
    (state : Nat) :
    List Transition :=
  table.rows.getD state []

/-- All transitions, state by state. -/
def transitions
    (table : Table) :
    List Transition :=
  table.rows.toList.flatten

def size
    (table : Table) :
    Nat :=
  table.transitions.length

def isEmpty
    (table : Table) :
    Bool :=
  table.transitions.isEmpty

def conflictWith?
    (added existing : Transition) :
    Option Conflict :=
  (existing.ambiguity? added).map (⟨·, existing⟩)

/-- The first conflict of a transition with its row. -/
def conflict?
    (table : Table)
    (added : Transition) :
    Option Conflict :=
  (table.row added.source).findSome? (conflictWith? added)

def append
    (table : Table)
    (added : Transition) :
    Table :=
  ⟨table.rows.modify added.source (· ++ [added])⟩

/--
Adds a transition that has no conflict with its row.

A source without a row is no fault here.  `Automaton.addTransition` checks the states of a
transition before it comes to the table, and what passes has a source with a row, by
`Automaton.declarationFault?_eq_none_iff`; then `row_append` says where it is found.
-/
def insert
    (table : Table)
    (added : Transition) :
    Except Conflict Table :=
  match table.conflict? added with
  | some conflict => .error conflict
  | none => .ok (table.append added)

/-- The transitions that a lookup may find, in the order of their row. -/
def candidates
    (table : Table)
    (state : Nat)
    (input : Terminal)
    (stack : Stack)
    (mode : PatternMode) :
    List Transition :=
  (table.row state).filter (·.answers input stack mode)

def lookup?
    (table : Table)
    (state : Nat)
    (input : Terminal)
    (stack : Stack)
    (mode : PatternMode) :
    Option Transition :=
  (table.row state).find? (·.answers input stack mode)

/-- What is in a row is in the table. -/
theorem mem_transitions_of_mem_row
    {table : Table}
    {state : Nat}
    {transition : Transition}
    (inRow : transition ∈ table.row state) :
    transition ∈ table.transitions := by
  rw [row, Array.getD_eq_getD_getElem?] at inRow
  cases located : table.rows[state]? with
  | none => simp [located] at inRow
  | some found =>
      rw [located, Option.getD_some] at inRow
      have foundIsRow := Array.mem_toList_iff.mpr (Array.mem_of_getElem? located)
      exact List.mem_flatten.mpr ⟨found, foundIsRow, inRow⟩

/-- The rows of the table are those of its states. -/
theorem transitions_eq_flatMap_row
    (table : Table) :
    table.transitions = (List.range table.stateCount).flatMap table.row := by
  have rows : table.rows.toList = (List.range table.stateCount).map table.row := by
    refine List.ext_getElem (by simp [stateCount]) ?_
    intro state inRows _
    have inside : state < table.rows.size := by simpa using inRows
    simp [row, inside]
  rw [transitions, rows, List.flatMap]

theorem row_eq_nil
    {table : Table}
    {state : Nat}
    (outside : table.stateCount ≤ state) :
    table.row state = [] := by
  rw [row, Array.getD_eq_getD_getElem?, Array.getElem?_eq_none outside, Option.getD_none]

/-! ## Rows after an addition -/

@[simp]
theorem row_empty
    (states state : Nat) :
    (empty states).row state = [] := by
  simp only [row, empty, Array.getD_eq_getD_getElem?, Array.getElem?_replicate]
  split <;> rfl

@[simp]
theorem stateCount_empty
    (states : Nat) :
    (empty states).stateCount = states := by
  simp [stateCount, empty]

@[simp]
theorem stateCount_append
    (table : Table)
    (added : Transition) :
    (table.append added).stateCount = table.stateCount := by
  simp [stateCount, append]

/-- The row of the source gains the transition at its end, and no other row changes. -/
theorem row_append
    (table : Table)
    (added : Transition)
    (inside : added.source < table.stateCount)
    (state : Nat) :
    (table.append added).row state =
      if state = added.source then table.row state ++ [added] else table.row state := by
  simp only [row, append, Array.getD_eq_getD_getElem?, Array.getElem?_modify]
  by_cases same : added.source = state
  · subst same
    have present : added.source < table.rows.size := inside
    simp [Array.getElem?_eq_getElem present]
  · simp [same, Ne.symm same]

end Table

end Pushdown
