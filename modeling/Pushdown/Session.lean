import Pushdown.CommandLine
import Pushdown.Log
import Pushdown.Table.Markdown

namespace Pushdown

/-!
# Sessions

A session reads a definition, writes its table if asked to, and then answers
every line of its input that has words.  A run that exceeds its limit is an
answer like any other; a trace without a derivation ends the session.
-/

/-- What a session writes and how it ends. -/
structure Report where
  exitCode : Nat
  output : String
  log : List String
deriving Repr, DecidableEq

/-- What is written for one line of input. -/
structure Answer where
  output : String
  log : List LogLine
  /-- Why the session ends here, if it does. -/
  failure : Option DerivationError
deriving Repr, DecidableEq

namespace Answer

def line
    (text : String) :
    String :=
  text ++ "\n"

/-- The answer of a run that was cut short. -/
def ofError
    (input : String)
    (error : RunError)
    (log : List LogLine) :
    Answer :=
  let message := input ++ ": " ++ error.message
  { output := line message
    log := log ++ [⟨.warning, .program, message⟩]
    failure := none }

/-- What is written of a derivation; one without forms is not mentioned. -/
def derivationOutput
    (derivation : Derivation) :
    String :=
  if derivation.forms.isEmpty then "" else line derivation.text

def ofTrace
    (trace : Trace)
    (log : List LogLine) :
    Answer :=
  let shown := line trace.text
  if trace.isAccepted then
    let log := log ++ Derivation.log trace
    match Derivation.ofTrace trace with
    | .ok derivation =>
        ⟨shown ++ line "accepted" ++ derivationOutput derivation ++ line "", log, none⟩
    | .error error =>
        ⟨shown ++ line "accepted", log, some error⟩
  else
    ⟨shown ++ line "rejected" ++ line "", log, none⟩

/--
The answer to the word on a line.  If the automaton has no limit and the budget is not enough,
it is the answer to a run over a limit, in the place of no answer at all.
-/
def ofLine
    (machine : Automaton)
    (budget : Nat)
    (input : List Char) :
    Answer :=
  let word := (Text.words input).map Terminal.mk
  let limit := machine.limitOr budget
  let run := machine.history limit word
  let log := run.log limit word
  match run.outcome limit with
  | .ok trace => ofTrace trace log
  | .error error => ofError (String.ofList input) error log

end Answer

namespace Session

/-- A run without a limit is given up after more steps than can ever be taken. -/
def stepBudget : Nat :=
  Nat.pow 2 64

/-- The lines of the input that have words. -/
def inputLines
    (input : String) :
    List (List Char) :=
  (Text.lines input.toList).filter fun line => !Text.isBlankLine line

/-- The answers to the lines of the input, up to one that ends the session. -/
def answers
    (machine : Automaton)
    (budget : Nat) :
    List (List Char) → List Answer
  | [] => []
  | line :: rest =>
      let answer := Answer.ofLine machine budget line
      match answer.failure with
      | none => answer :: answers machine budget rest
      | some _ => [answer]

def setText
    (members : List String) :
    String :=
  Text.enclosed "\x7b" members "\x7d"

/-- The symbols of a grammar; one without rules has no start symbol and shows none. -/
def symbolLines
    (grammar : Grammar) :
    List String :=
  match grammar.start? with
  | none => []
  | some start =>
      [ "start: " ++ start.text,
        "variables: " ++ setText (grammar.nonterminals.toList.map Nonterminal.detail),
        "terminals: " ++ setText (grammar.terminals.toList.map Terminal.detail) ]

/-- The rules of a grammar, their numbers flush right in four columns. -/
def ruleLines
    (grammar : Grammar) :
    List String :=
  grammar.rules.zipIdx.map fun (rule, number) =>
    (Text.Layout.flushRight 4).apply (toString number) ++ " " ++ rule.text

/-- The table of a definition, after its symbols and its rules. -/
def tableOutput
    (definition : Definition) :
    String :=
  String.join ((symbolLines definition.grammar ++ ruleLines definition.grammar ++
    [definition.automaton.table.markdown]).map Answer.line)

/-- The sizes of a definition, for the log. -/
def sizeLine
    (definition : Definition) :
    LogLine :=
  ⟨.information, .program,
    toString definition.automaton.stateCount ++ " states, " ++
      toString definition.automaton.table.size ++ " transitions, " ++
      toString definition.grammar.rules.length ++ " rules"⟩

/-- The lines that are shown: warnings, and with the option all others too. -/
def shownLog
    (verbose : Bool)
    (lines : List LogLine) :
    List String :=
  (lines.filter fun line => verbose || line.level == .warning).map LogLine.text

/-- The last line of the log of a session that failed. -/
def failureLine
    (detail : String) :
    String :=
  "Error: " ++ detail

/-- The automaton with the limit that the options give. -/
def limited
    (options : Options)
    (machine : Automaton) :
    Automaton :=
  match options.stepLimit with
  | none => machine
  | some limit => machine.withStepLimit limit

/-- The report of a session whose definition can be read. -/
def ofDefinition
    (options : Options)
    (budget : Nat)
    (input : String)
    (readingLog : List LogLine)
    (definition : Definition) :
    Report :=
  let answers := answers (limited options definition.automaton) budget (inputLines input)
  let failure? := answers.findSome? (·.failure)
  let log := readingLog ++ [sizeLine definition] ++ answers.flatMap (·.log)
  { exitCode := if failure?.isSome then 1 else 0
    output :=
      (if options.table then tableOutput definition else "") ++
        String.join (answers.map (·.output))
    log :=
      shownLog options.verbose log ++
        failure?.toList.map fun error => failureLine error.detail }

/-- The report of a session on the text of a definition and an input. -/
def run
    (options : Options)
    (budget : Nat)
    (text input : String) :
    Report :=
  let readingLog := Definition.log text
  match Definition.read text with
  | .error error =>
      ⟨1, "", shownLog options.verbose readingLog ++ [failureLine error.detail]⟩
  | .ok definition =>
      ofDefinition options budget input readingLog definition

end Session

end Pushdown
