import Crud.CommandLine.Run

/-!
# The program

Runs the command line on the real files, environment and standard input.
-/

open Crud.CommandLine

/-- The text of a file, if it can be read. -/
def readText (path : String) : IO (Option String) := do
  try
    return some (← IO.FS.readFile path)
  catch _ =>
    return none

/-- The text of the standard input, if it can be read. -/
def readInput : IO (Option String) := do
  let bytes ← (← IO.getStdin).readBinToEnd
  return String.fromUTF8? bytes

/-- Run the command line and report what it leaves behind. -/
def main (arguments : List String) : IO UInt32 := do
  let driver ← IO.getEnv driverVariable
  let world : World IO :=
    { environment := fun name => if name = driverVariable then driver else none
      file := readText
      input := readInput }
  let outcome ← run world arguments
  IO.print outcome.output
  if let some message := outcome.error then
    IO.eprintln ("Error: " ++ message)
  else if outcome.exitCode != 0 then
    IO.eprint usage
  return outcome.exitCode.toUInt32
