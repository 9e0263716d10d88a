import Pushdown.Text.Numeral

namespace Pushdown

/-!
# The command line

The options are `-a`/`--automaton` with a file, which is required,
`-s`/`--step-limit` with a number, `-t`/`--table` and `-v`/`--verbose`.  Short
options may be written together, and the value of an option may follow it in the
same argument, after an equals sign or, for a short one, at once.  No option may
be given twice, and nothing but options may be given.
-/

/-- What the program is asked to do. -/
structure Options where
  /-- The file with the definition of the automaton. -/
  automaton : String
  /-- Whether to write the table of transitions first. -/
  table : Bool
  /-- How many steps a run may record. -/
  stepLimit : Option Nat
  /-- Whether to log more than warnings. -/
  verbose : Bool
deriving Repr, DecidableEq

namespace CommandLine

/-- One option with its value. -/
inductive Setting where
  | automaton (file : String)
  | table
  | stepLimit (limit : Nat)
  | verbose
deriving Repr, DecidableEq

/-- An option that takes a value. -/
inductive ValueOption where
  | automaton
  | stepLimit
deriving Repr, DecidableEq

namespace ValueOption

/-- The option with a value, unless the value is not one for it. -/
def setting?
    (option : ValueOption)
    (value : List Char) :
    Option Setting :=
  match option with
  | .automaton =>
      if value.isEmpty then none else some (.automaton (String.ofList value))
  | .stepLimit =>
      (Text.numeral? (String.ofList value)).map .stepLimit

end ValueOption

/-- The settings of an argument, and the option that takes the next argument as its value. -/
structure Argument where
  settings : List Setting
  pending : Option ValueOption
deriving Repr, DecidableEq

namespace Argument

/-- An argument that is one whole setting. -/
def whole
    (setting : Setting) :
    Argument :=
  ⟨[setting], none⟩

def prepend
    (setting : Setting)
    (argument : Argument) :
    Argument :=
  { argument with settings := setting :: argument.settings }

end Argument

/-- A value in the same argument may follow an equals sign. -/
def dropEquals : List Char → List Char
  | '=' :: value => value
  | value => value

/-- The value of a short option: the rest of its argument, or else the next argument. -/
def shortValue?
    (option : ValueOption) :
    List Char → Option Argument
  | [] => some ⟨[], some option⟩
  | rest => (option.setting? (dropEquals rest)).map .whole

/-- Reads short options that are written together. -/
def shortOptions? : List Char → Option Argument
  | [] => some ⟨[], none⟩
  | 't' :: rest => (shortOptions? rest).map (.prepend .table)
  | 'v' :: rest => (shortOptions? rest).map (.prepend .verbose)
  | 'a' :: rest => shortValue? .automaton rest
  | 's' :: rest => shortValue? .stepLimit rest
  | _ => none

/-- The value of a long option: what follows the equals sign, or else the next argument. -/
def longValue?
    (option : ValueOption) :
    List Char → Option Argument
  | [] => some ⟨[], some option⟩
  | rest => (option.setting? (dropEquals rest)).map .whole

/-- A long option without a value has nothing after its name. -/
def longFlag?
    (setting : Setting)
    (rest : List Char) :
    Option Argument :=
  if rest.isEmpty then some (.whole setting) else none

/-- Reads a long option, of which the name ends at the first equals sign. -/
def longOption?
    (option : List Char) :
    Option Argument :=
  let (name, rest) := option.span (· != '=')
  match String.ofList name with
  | "automaton" => longValue? .automaton rest
  | "step-limit" => longValue? .stepLimit rest
  | "table" => longFlag? .table rest
  | "verbose" => longFlag? .verbose rest
  | _ => none

/-- Reads an argument; one that is not an option has no reading. -/
def argument? : List Char → Option Argument
  | '-' :: '-' :: option => longOption? option
  | '-' :: option :: more => shortOptions? (option :: more)
  | _ => none

/-- An argument is the value of the option before it unless it looks like an option. -/
def isValue : List Char → Bool
  | '-' :: _ :: _ => false
  | _ => true

/-- Reads arguments; an option may be waiting for its value. -/
def settings? :
    Option ValueOption →
    List (List Char) →
    Option (List Setting)
  | none, [] => some []
  | some _, [] => none
  | some option, value :: rest =>
      if isValue value then do
        let setting ← option.setting? value
        let settings ← settings? none rest
        return setting :: settings
      else
        none
  | none, ['-', '-'] :: rest =>
      if rest.isEmpty then some [] else none
  | none, option :: rest => do
      let argument ← argument? option
      let settings ← settings? argument.pending rest
      return argument.settings ++ settings

/-- The one value that settings give, if they give one; two are refused. -/
def atMostOne? : List α → Option (Option α)
  | [] => some none
  | [value] => some (some value)
  | _ => none

/-- The options that settings stand for. -/
def options?
    (settings : List Setting) :
    Option Options := do
  let automaton ← atMostOne? (settings.filterMap fun
    | .automaton file => some file
    | _ => none)
  let stepLimit ← atMostOne? (settings.filterMap fun
    | .stepLimit limit => some limit
    | _ => none)
  let table ← atMostOne? (settings.filter (· == .table))
  let verbose ← atMostOne? (settings.filter (· == .verbose))
  return ⟨← automaton, table.isSome, stepLimit, verbose.isSome⟩

def read?
    (arguments : List String) :
    Option Options := do
  options? (← settings? none (arguments.map String.toList))

end CommandLine

end Pushdown
