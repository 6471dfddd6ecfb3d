import RowQuery.Shell

/-! # The command-line program -/

namespace RowQuery

/-- Writes what a report holds and gives its exit code. -/
def finish (report : Shell.Report) : IO UInt32 := do
  IO.print report.output
  IO.eprint report.errors
  return report.code.toUInt32

/-- Answers the lines of the input one by one until one of them ends the shell. -/
partial def converse (config : Config) (input : IO.FS.Stream) : IO UInt32 := do
  let line ← input.getLine
  if line.isEmpty then
    finish { output := Shell.endOfInput }
  else
    match Shell.reply config line with
    | .go text =>
      IO.print text
      converse config input
    | .stop report => finish report

end RowQuery

open RowQuery in
/-- Does what the command line asks for and exits with its code. -/
def main (arguments : List String) : IO UInt32 := do
  match Shell.Invocation.ofArguments? arguments with
  | none =>
    IO.eprintln Shell.usage
    return 2
  | some invocation =>
    match invocation.command with
    | .shell =>
      IO.print Shell.greeting
      converse invocation.config (← IO.getStdin)
    | _ => finish (Shell.perform invocation "")
