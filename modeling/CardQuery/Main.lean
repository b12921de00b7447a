import CardQuery.Report

/-!
# Main — the command

Reads the card file and prints the report of the run.
-/

namespace CardQuery

/-- The text of a file, if it can be read. -/
def readFile? (path : String) : IO (Option String) := do
  try
    return some (← IO.FS.readFile path)
  catch _ => return none

/-- Runs the command with its arguments. -/
def command (argv : List String) : IO UInt32 := do
  match Arguments.parse argv with
  | .error exit =>
    (← IO.getStderr).putStrLn
      "usage: [-h] --cards CARDS [--max-results N] [--explain] [--labels] query"
    return exit.status.toUInt32
  | .ok args =>
    let file ←
      match args.cards with
      | some path => readFile? path
      | none => pure none
    let report := Report.run args file
    IO.print (printed report.lines)
    (← IO.getStderr).putStr (printed report.errors)
    match report.ending with
    | .ok status => return status.toUInt32
    | .error fault =>
      (← IO.getStderr).putStr (fault.message?.getD "the card file cannot be used" ++ "\n")
      return 1

end CardQuery

/-- The entry point. -/
def main (argv : List String) : IO UInt32 := CardQuery.command argv
