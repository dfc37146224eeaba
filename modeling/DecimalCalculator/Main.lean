import DecimalCalculator.CommandLine.Outcome

/-!
# The program

The answer to the arguments goes to standard output, and the journal to standard error, as far
as the filter in the environment variable `JOURNAL` shows it.
-/

open DecimalCalculator in
def main (arguments : List String) : IO UInt32 := do
  let request := CommandLine.Request.parse arguments
  let filter := (← IO.getEnv "JOURNAL").getD ""
  for line in request.journalLines filter do
    IO.eprintln line
  IO.print request.outcome.output
  return request.outcome.code.toUInt32
