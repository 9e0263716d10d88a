import Pushdown.Automaton.Selection
import Pushdown.Trace

namespace Pushdown

/-!
# Runs

A run takes steps as long as there is unread input or more than one token on the
stack.  It is stuck when no transition can be chosen, and unfinished when it has
recorded as many steps as it may.  A run that ends right after a step into an
accepting state is accepted; its trace then gets one more snapshot that shows
where it ended.
-/

/-- Where a run stands between two steps. -/
structure Configuration where
  state : Nat
  unread : List Terminal
  stack : Stack
deriving Repr, DecidableEq

namespace Configuration

/-- Nothing is left to read, and at most one token is left on the stack. -/
def isDone
    (configuration : Configuration) :
    Bool :=
  configuration.unread.isEmpty && configuration.stack.depth ≤ 1

/--
Where a chosen transition leads; one terminal is read unless nothing is consumed.

The stack is not compared with the pattern again.  A transition is chosen only with its
pattern at the top, by `Automaton.mem_row_of_select?`, so that `Stack.checkedApply` cannot
refuse it: `Automaton.step?_eq_some_iff` says that a step that compares is this one.
-/
def follow
    (configuration : Configuration)
    (choice : Choice) :
    Configuration :=
  { state := choice.transition.target
    unread :=
      if choice.consumed.isEpsilon then configuration.unread else configuration.unread.drop 1
    stack := configuration.stack.apply choice.transition }

end Configuration

/-- The run recorded as many steps as it may and was not done. -/
inductive RunError where
  | stepLimitExceeded (limit : Nat)
deriving Repr, DecidableEq

namespace RunError

def message : RunError → String
  | .stepLimitExceeded limit =>
      "Run exceeded the step limit of " ++ toString limit ++ " configurations."

def detail : RunError → String
  | .stepLimitExceeded limit =>
      "StepLimitExceeded(" ++ toString limit ++ ")"

end RunError

inductive Ending where
  /-- The run was done. -/
  | finished
  /-- No transition could be chosen. -/
  | stuck
  /-- No more steps could be recorded. -/
  | unfinished
deriving Repr, DecidableEq

/-- The steps of a run, and where and how it ended. -/
structure Run where
  snapshots : List Snapshot
  last : Configuration
  ending : Ending
deriving Repr, DecidableEq

namespace Run

/-- The snapshot that shows where an accepted run ended; it repeats the last transition. -/
def marker?
    (run : Run) :
    Option Snapshot :=
  match run.snapshots.getLast? with
  | none => none
  | some final =>
      if final.accepting then
        some
          { state := run.last.state
            consumed := .epsilon
            stack := run.last.stack.toList
            transition := final.transition
            accepting := true }
      else
        none

/-- The trace of a run that has ended. -/
def trace?
    (run : Run) :
    Option Trace :=
  match run.ending with
  | .finished => some ⟨run.snapshots ++ run.marker?.toList, false⟩
  | .stuck => some ⟨run.snapshots, true⟩
  | .unfinished => none

/-- The trace, or the error of a run that was cut short at the limit. -/
def outcome
    (run : Run)
    (limit : Nat) :
    Except RunError Trace :=
  match run.trace? with
  | some trace => .ok trace
  | none => .error (.stepLimitExceeded limit)

end Run

namespace Automaton

/-- Where a run on a word begins. -/
def initial
    (machine : Automaton)
    (word : List Terminal) :
    Configuration :=
  ⟨machine.start, word, .empty⟩

def record
    (machine : Automaton)
    (configuration : Configuration)
    (choice : Choice) :
    Snapshot :=
  { state := configuration.state
    consumed := choice.consumed
    stack := configuration.stack.toList
    transition := choice.transition
    accepting := machine.isAccepting choice.transition.target }

def choose?
    (machine : Automaton)
    (configuration : Configuration) :
    Option Choice :=
  machine.select? configuration.state configuration.unread.head? configuration.stack

/--
Runs from a configuration and records at most `budget` further steps.

The steps recorded `earlier` are listed with the newest first.
-/
def runFrom
    (machine : Automaton)
    (budget : Nat)
    (configuration : Configuration)
    (earlier : List Snapshot) :
    Run :=
  if configuration.isDone then
    ⟨earlier.reverse, configuration, .finished⟩
  else
    match budget with
    | 0 => ⟨earlier.reverse, configuration, .unfinished⟩
    | budget + 1 =>
        match machine.choose? configuration with
        | none => ⟨earlier.reverse, configuration, .stuck⟩
        | some choice =>
            machine.runFrom budget
              (configuration.follow choice)
              (machine.record configuration choice :: earlier)

/-- The run on a word that records at most `limit` steps. -/
def history
    (machine : Automaton)
    (limit : Nat)
    (word : List Terminal) :
    Run :=
  machine.runFrom limit (machine.initial word) []

def runWithin
    (machine : Automaton)
    (limit : Nat)
    (word : List Terminal) :
    Except RunError Trace :=
  (machine.history limit word).outcome limit

/-- The limit of the automaton, or the given budget if it has none. -/
def limitOr
    (machine : Automaton)
    (budget : Nat) :
    Nat :=
  machine.stepLimit.getD budget

/-- Runs a word under the limit of the automaton; without one, as long as the budget lasts. -/
def run
    (machine : Automaton)
    (budget : Nat)
    (word : List Terminal) :
    Except RunError Trace :=
  machine.runWithin (machine.limitOr budget) word

/-- The steps recorded earlier stand in front, and change nothing else. -/
theorem runFrom_eq
    (machine : Automaton)
    (budget : Nat)
    (configuration : Configuration)
    (earlier : List Snapshot) :
    machine.runFrom budget configuration earlier =
      { machine.runFrom budget configuration [] with
        snapshots := earlier.reverse ++ (machine.runFrom budget configuration []).snapshots } := by
  induction budget generalizing configuration earlier with
  | zero =>
      unfold runFrom
      split <;> simp
  | succ budget inductionHypothesis =>
      unfold runFrom
      split
      · simp
      · cases machine.choose? configuration with
        | none => simp
        | some choice =>
            simp only
            rw [inductionHypothesis _ (_ :: earlier), inductionHypothesis _ [_]]
            simp

end Automaton

end Pushdown
