import Pushdown.Transition

namespace Pushdown

/-!
# Traces

A trace lists the steps of a run that has ended.  Every step is shown with the
state and the stack before it.
-/

/-- A recorded step, with the state and the stack before it. -/
structure Snapshot where
  state : Nat
  consumed : Terminal
  /-- The tokens of the stack from the top down. -/
  stack : List StackToken
  transition : Transition
  /-- Whether the transition leads to an accepting state. -/
  accepting : Bool
deriving Repr, DecidableEq

namespace Snapshot

def text
    (snapshot : Snapshot) :
    String :=
  "(" ++ toString snapshot.state ++
    ", " ++ snapshot.consumed.text ++
    ", " ++ StackToken.listText snapshot.stack ++ ")"

end Snapshot

/-- The recorded steps of a run that has ended. -/
structure Trace where
  snapshots : List Snapshot
  /-- Whether the run got stuck. -/
  rejected : Bool
deriving Repr, DecidableEq

namespace Trace

/-- Whether the run ended without getting stuck, right after a step into an accepting state. -/
def isAccepted
    (trace : Trace) :
    Bool :=
  !trace.rejected && trace.snapshots.getLast?.any (·.accepting)

def text
    (trace : Trace) :
    String :=
  " -> ".intercalate (trace.snapshots.map Snapshot.text)

end Trace

end Pushdown
