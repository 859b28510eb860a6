import GatedMigration.CommandLine

/-!
# The program

Reads the plan, prints what the command line leads to, and shows warnings and failures on the
standard error stream.
-/

namespace GatedMigration.CommandLine

/-- How the program is called. -/
def usage : String :=
  "Validate and inspect dependency-gated migration plans.\n\n"
    ++ "Usage: migradag [--config PATH] [--log-level LEVEL] [--format text|json] [--details]\n"

/-- What is in a file. -/
def contentOf (path : String) : IO (Except Failure String) := do
  try return .ok (← IO.FS.readFile path)
  catch e => return .error (.io (toString e))

/-- An answer delivered; the result is the exit code of the program. -/
def Answer.deliver (answer : Answer) (level : Option LogLevel) : IO UInt32 := do
  if level != some .error then
    for w in answer.warnings do
      IO.eprintln ("WARN " ++ w.message)
  IO.print answer.output
  match answer.result with
  | .ok () => return 0
  | .error e =>
    IO.eprintln ("migradag error: " ++ e.message)
    return 1

/-- The program called with the words of a command line. -/
def call (words : List String) : IO UInt32 := do
  match Arguments.read words with
  | .ok arguments => (arguments.run (← contentOf arguments.config)).deliver arguments.logLevel
  | .error .displayHelp =>
    IO.print usage
    return 0
  | .error .displayVersion =>
    IO.println "migradag 0.1.0"
    return 0
  | .error e =>
    IO.eprint (e.name ++ "\n\n" ++ usage)
    return 2

end GatedMigration.CommandLine

def main (words : List String) : IO UInt32 := GatedMigration.CommandLine.call words
