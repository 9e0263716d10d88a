import Pushdown.Definition.Fault

namespace Pushdown

/-!
# Directives

A line of a definition is blank, a comment that begins with `#`, or a directive
with its words.  An outline is the list of all directives.  The parts of an
outline are told apart by the kind of directive, so only the order of lines of
one kind can matter.
-/

/-- A directive with its words. -/
inductive Directive where
  /-- The number of states. -/
  | states (count : Nat)
  /-- The start state. -/
  | start (state : Nat)
  /-- Some of the accepting states. -/
  | accept (states : List Nat)
  /-- The names of some terminals. -/
  | terminals (names : List String)
  /-- The names of some nonterminals. -/
  | nonterminals (names : List String)
  /-- A rule, as it is written. -/
  | rule (words : List String)
  /-- A transition, as it is written. -/
  | transition (words : List String)
deriving Repr, DecidableEq

namespace Directive

/-- Reads a directive; the number of states and the start state take all words of their line. -/
def read
    (name : String)
    (words : List String) :
    Except LineFault Directive :=
  if name = Header.states.text then
    (readNumber (" ".intercalate words)).map .states
  else if name = Header.start.text then
    (readNumber (" ".intercalate words)).map .start
  else if name = "accept" then
    (words.mapM readNumber).map .accept
  else if name = "terminals" then
    .ok (.terminals words)
  else if name = "variables" then
    .ok (.nonterminals words)
  else if name = "rule" then
    .ok (.rule words)
  else if name = "trans" then
    .ok (.transition words)
  else
    .error (.unknownDirective name)

end Directive

/-- The directives of a definition in the order of their lines. -/
structure Outline where
  directives : List (Text.Numbered Directive)
deriving Repr, DecidableEq

namespace Outline

/-- A comment takes a whole line and begins with `#`. -/
def isComment
    (line : List Char) :
    Bool :=
  (Text.trimStart line).head? == some '#'

/-- The words of a line; a comment has none. -/
def lineWords
    (line : List Char) :
    List String :=
  if isComment line then [] else Text.words line

/-- Reads the directive of a line; a line without words has none. -/
def readLine
    (line : Text.Numbered (List Char)) :
    Except (Text.Numbered LineFault) (Option (Text.Numbered Directive)) :=
  match lineWords line.content with
  | [] => .ok none
  | name :: words =>
      match Directive.read name words with
      | .ok directive => .ok (some ⟨line.line, directive⟩)
      | .error fault => .error ⟨line.line, fault⟩

/-- Reads all lines; the first faulty one is the error. -/
def read
    (text : String) :
    Except (Text.Numbered LineFault) Outline := do
  let directives ← (Text.numberedLines text).mapM readLine
  return ⟨directives.filterMap id⟩

/-- What is kept of each directive. -/
def select
    (outline : Outline)
    (keep : Directive → Option α) :
    List (Text.Numbered α) :=
  outline.directives.filterMap fun item =>
    (keep item.content).map (⟨item.line, ·⟩)

/-- What is kept of each directive, without the numbers of the lines. -/
def contents
    (outline : Outline)
    (keep : Directive → Option α) :
    List α :=
  (outline.select keep).map (·.content)

/-- The number of states; the last line that gives it counts. -/
def stateCount?
    (outline : Outline) :
    Option Nat :=
  (outline.contents fun
    | .states count => some count
    | _ => none).getLast?

/-- The start state; the last line that gives it counts. -/
def start?
    (outline : Outline) :
    Option Nat :=
  (outline.contents fun
    | .start state => some state
    | _ => none).getLast?

def acceptStates
    (outline : Outline) :
    List Nat :=
  (outline.contents fun
    | .accept states => some states
    | _ => none).flatten

def terminals
    (outline : Outline) :
    List String :=
  (outline.contents fun
    | .terminals names => some names
    | _ => none).flatten

def nonterminals
    (outline : Outline) :
    List String :=
  (outline.contents fun
    | .nonterminals names => some names
    | _ => none).flatten

def ruleLines
    (outline : Outline) :
    List (Text.Numbered (List String)) :=
  outline.select fun
    | .rule words => some words
    | _ => none

def transitionLines
    (outline : Outline) :
    List (Text.Numbered (List String)) :=
  outline.select fun
    | .transition words => some words
    | _ => none

end Outline

end Pushdown
