import Pushdown.Session

/-!
# The program

Reads the file and the standard input, and writes the report of the session.
-/

namespace Pushdown

def usage : String :=
  "usage: --automaton FILE [--table] [--step-limit N] [--verbose]"

/-- Writes a report and gives the exit code. -/
def writeReport
    (report : Report) :
    IO UInt32 := do
  for line in report.log do
    IO.eprintln line
  IO.print report.output
  return report.exitCode.toUInt32

partial def readInput
    (input : IO.FS.Stream)
    (earlier : String) :
    IO String := do
  let line ← input.getLine
  if line.isEmpty then
    return earlier
  else
    readInput input (earlier ++ line)

end Pushdown

open Pushdown in
def main
    (arguments : List String) :
    IO UInt32 := do
  match CommandLine.read? arguments with
  | none =>
      IO.eprintln usage
      return 2
  | some options =>
      try
        let text ← IO.FS.readFile options.automaton
        let input ← readInput (← IO.getStdin) ""
        writeReport (Session.run options Session.stepBudget text input)
      catch error =>
        IO.eprintln (Session.failureLine (toString error))
        return 1
