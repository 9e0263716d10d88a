import Pushdown.Definition.Basic
import Pushdown.Derivation
import Pushdown.Text.Layout
import Pushdown.Text.Visible

namespace Pushdown

/-!
# The log

Every line of the log has a level and names the part of the program it comes
from.  What is logged of a reading, a run or a derivation follows from its
result, so nothing is logged while it is under way.
-/

inductive LogLevel where
  | warning
  | information
  | debugging
deriving Repr, DecidableEq

def LogLevel.text : LogLevel → String
  | .warning => "WARN"
  | .information => "INFO"
  | .debugging => "DEBUG"

/-- The parts of the program that write to the log. -/
inductive LogTarget where
  | program
  | table
  | loader
  | automaton
  | derivation
deriving Repr, DecidableEq

def LogTarget.text : LogTarget → String
  | .program => "dpda"
  | .table => "dpda::table"
  | .loader => "dpda::loader"
  | .automaton => "dpda::automaton"
  | .derivation => "dpda::derivation"

structure LogLine where
  level : LogLevel
  target : LogTarget
  message : String
deriving Repr, DecidableEq

namespace LogLine

/-- The level, flush right in five columns, the target and the message. -/
def text
    (line : LogLine) :
    String :=
  (Text.Layout.flushRight 5).apply line.level.text ++
    " " ++ line.target.text ++ ": " ++ Text.visible line.message

end LogLine

namespace Definition

def log
    (text : String) :
    List LogLine :=
  let additions := (added text).map fun transition =>
    ⟨.debugging, .table, "add transition " ++ transition.text⟩
  match read text with
  | .error _ => additions
  | .ok definition =>
      additions ++
        [⟨.debugging, .loader,
          "loaded automaton with " ++ toString definition.automaton.table.size ++
            " transitions"⟩]

end Definition

namespace Snapshot

def log
    (snapshot : Snapshot) :
    LogLine :=
  ⟨.debugging, .automaton,
    "state: " ++ toString snapshot.state ++
      ", consumed: " ++ snapshot.consumed.text ++
      ", transition: " ++ snapshot.transition.text⟩

end Snapshot

namespace Run

/-- The log of the end of a run on a word under a limit. -/
def endingLog
    (run : Run)
    (limit : Nat)
    (word : List Terminal) :
    List LogLine :=
  let state := toString run.last.state
  match run.ending with
  | .unfinished =>
      [⟨.warning, .automaton,
        "step limit " ++ toString limit ++ " reached at state " ++ state⟩]
  | .stuck =>
      [⟨.information, .automaton,
        "rejected at state " ++ state ++
          ", cursor: " ++ toString (word.length - run.last.unread.length) ++
          ", stack: " ++ StackToken.listDetail run.last.stack.toList⟩]
  | .finished =>
      run.marker?.toList.map fun _ =>
        ⟨.information, .automaton, "accepted at state " ++ state⟩

def log
    (run : Run)
    (limit : Nat)
    (word : List Terminal) :
    List LogLine :=
  run.snapshots.map Snapshot.log ++ run.endingLog limit word

end Run

namespace Derivation

def log
    (trace : Trace) :
    List LogLine :=
  (applied (rulesOfTrace trace)).map fun rule =>
    ⟨.debugging, .derivation, "apply " ++ rule.text⟩

end Derivation

end Pushdown
