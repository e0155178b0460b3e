import RowSchema.Command.Run
import RowSchema.Store.Disk

/-!
# The program

Runs the command line on the machine. Without arguments it answers the requests on the standard
input as they come, each on the standard error before the next one is read.
-/

namespace RowSchema.Command

/-- Answers requests until the input ends. -/
partial def serveInput (input output : IO.FS.Stream) : IO Unit := do
  let line ← input.getLine
  unless line.isEmpty do
    for response in ← Protocol.serve Disk.host line.toList do
      output.putStr (response.text ++ "\n")
      output.flush
    serveInput input output

/-- Runs a command line on the machine and gives its exit code. -/
def runOnMachine (args : List String) : IO UInt32 := do
  match parse args with
  | .serve =>
    serveInput (← IO.getStdin) (← IO.getStderr)
    return 0
  | _ =>
    let outcome ← run Disk.host args ""
    IO.print outcome.stdout
    IO.eprint outcome.stderr
    return UInt32.ofNat outcome.exit

end RowSchema.Command

/-- The entry point. -/
def main (args : List String) : IO UInt32 :=
  RowSchema.Command.runOnMachine args
