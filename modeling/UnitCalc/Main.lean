import UnitCalc.Console
import UnitCalc.Standard

/-!
# The program

Reads the arguments and, at the prompt, one line after another, and prints what the console
module says.
-/

namespace UnitCalc.Main

open UnitCalc.Console

/-- Prints an output on the two streams. -/
def print (output : Output) : IO PUnit := do
  let stdout ← IO.getStdout
  let stderr ← IO.getStderr
  stdout.putStr output.stdout
  stdout.flush
  stderr.putStr output.stderr

/-- Ends the program over a breakdown. -/
def abort (cause : Breakdown) : IO UInt32 := do
  print (.err (cause.message ++ "\n"))
  return 1

/-- Prompts for expressions until the input ends, and responds to each line once it is read. -/
partial def loop (display : Display) : IO UInt32 := do
  print (.out prompt)
  let line ← (← IO.getStdin).getLine
  if line.isEmpty then
    print (.out "\n")
    return 0
  match respond standardRegistry display line with
  | .ok none => return 0
  | .ok (some output) =>
    print output
    loop display
  | .error cause => abort cause

end UnitCalc.Main

/-- The calculator on the command line. -/
def main (arguments : List String) : IO UInt32 := do
  match UnitCalc.Console.Request.ofArguments arguments with
  | .prompt display => UnitCalc.Main.loop display
  | _ =>
    match UnitCalc.Console.run UnitCalc.standardRegistry arguments "" with
    | .ok result =>
      UnitCalc.Main.print result.output
      return UInt32.ofNat result.status
    | .error cause => UnitCalc.Main.abort cause
