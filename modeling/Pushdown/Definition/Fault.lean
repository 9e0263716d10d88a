import Pushdown.Automaton.BuildError
import Pushdown.Text.Numbered
import Pushdown.Text.Numeral

namespace Pushdown

/-!
# What is wrong with a definition

A fault is found in a line and reported with the number of the line, except for
an automaton that cannot be declared at all.  A missing header is reported on
line zero.
-/

/-- The lines that every definition has. -/
inductive Header where
  | states
  | start
deriving Repr, DecidableEq

def Header.text : Header → String
  | .states => "states"
  | .start => "start"

/-- The words that separate the parts of a transition line. -/
inductive Separator where
  | colon
  | arrow
deriving Repr, DecidableEq

def Separator.text : Separator → String
  | .colon => ":"
  | .arrow => "->"

/-- What may be wrong with a line. -/
inductive LineFault where
  | unknownDirective (word : String)
  | missingHeader (header : Header)
  | invalidNumber (text : String)
  | missingSeparator (separator : Separator)
  | unknownRule (number : Nat)
  | noArrow
  | rejected (error : BuildError)
deriving Repr, DecidableEq

namespace LineFault

def message : LineFault → String
  | .unknownDirective word => "Unknown directive: " ++ word
  | .missingHeader header => "Missing header directive: " ++ header.text
  | .invalidNumber text => "Invalid number: " ++ text
  | .missingSeparator separator => "Missing `" ++ separator.text ++ "` in transition line"
  | .unknownRule number => "Rule " ++ toString number ++ " is not declared"
  | .noArrow => "No arrow in rule line"
  | .rejected error => "Transition rejected: " ++ error.message

def detail : LineFault → String
  | .unknownDirective word => "UnknownDirective(" ++ Text.quoted word ++ ")"
  | .missingHeader header => "MissingHeader(" ++ Text.quoted header.text ++ ")"
  | .invalidNumber text => "InvalidNumber(" ++ Text.quoted text ++ ")"
  | .missingSeparator separator => "MissingSeparator(" ++ Text.quoted separator.text ++ ")"
  | .unknownRule number => "UnknownRule(" ++ toString number ++ ")"
  | .noArrow => "NoArrow"
  | .rejected error => "Rejected(" ++ error.detail ++ ")"

end LineFault

/-- Why a definition cannot be read. -/
inductive DefinitionError where
  /-- A line is faulty. -/
  | faultyLine (fault : Text.Numbered LineFault)
  /-- The automaton cannot be declared. -/
  | undeclarable (error : BuildError)
deriving Repr, DecidableEq

namespace DefinitionError

def message : DefinitionError → String
  | .faultyLine fault =>
      "Error parsing automaton, line: " ++ toString fault.line ++
        ", cause: " ++ fault.content.detail ++ "."
  | .undeclarable error =>
      error.message

def detail : DefinitionError → String
  | .faultyLine fault =>
      "ParseAutomatonError \x7b line: " ++ toString fault.line ++
        ", cause: " ++ fault.content.detail ++ " \x7d"
  | .undeclarable error =>
      error.detail

end DefinitionError

/-- The number a word stands for. -/
def readNumber
    (word : String) :
    Except LineFault Nat :=
  match Text.numeral? word with
  | some number => .ok number
  | none => .error (.invalidNumber word)

end Pushdown
