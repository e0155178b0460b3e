import RowSchema.Command.Arguments
import RowSchema.Command.Report
import RowSchema.Protocol.Serve

/-!
# Running a command line

## Main definitions

* `Command.Outcome` — what a run leaves to its caller
* `Command.run` — runs a command line

## Implementation notes

An outcome leaves out what only accompanies a run: the log lines, which stand on the standard output
while requests are answered and on the standard error during a generation, and the colours and the
progress sign of a terminal. The reason of a failure is given without the frame that is drawn around
it, and a command line that makes no sense is refused in fewer words.
-/

namespace RowSchema.Command

/-- What a run leaves to its caller: the exit code and what it has written, log lines left out. -/
structure Outcome where
  exit : Nat
  stdout : String
  stderr : String
deriving DecidableEq, Repr

/-- The outcome of a run that has gone well. -/
def Outcome.success (stdout : String) : Outcome := ⟨0, stdout, ""⟩

/-- The outcome of a failed generation. -/
def Outcome.failure (reason : String) : Outcome := ⟨1, failureReport, reason ++ "\n"⟩

/-- The outcome of a command line that makes no sense. -/
def Outcome.usage : Outcome := ⟨2, "", "error: invalid arguments\n"⟩

variable {m : Type → Type} [Monad m]

/-- The milliseconds from one point in time to another. -/
def millisBetween (start stop : Time.Instant) : Nat :=
  let nanos := (stop.seconds - start.seconds) * 1000000000
    + (stop.nanoseconds - start.nanoseconds : Int)
  nanos.toNat / 1000000

/-- Generates from a file into a directory. -/
def generate (host : Host m) (document output : String) : m Outcome := do
  let start ← host.now
  match ← host.read document with
  | .error fault =>
    return .failure ("Failed to read '" ++ document ++ "': " ++ fault.message)
  | .ok text =>
    match Generator.readDocument text, Generator.ofOutput (some output) with
    | .error e, _ => return .failure e.message
    | _, .error e => return .failure e.message
    | .ok parsed, .ok generator =>
      match ← generator.run host parsed with
      | .error e => return .failure e.message
      | .ok summary =>
        return .success (successReport generator summary (millisBetween start (← host.now)))

/-- Runs a command line. Requests are answered on the standard error, one a line. -/
def run (host : Host m) (args : List String) (stdin : String) : m Outcome := do
  match parse args with
  | .serve =>
    let responses ← Protocol.serve host stdin.toList
    return ⟨0, "", String.join (responses.map fun r => r.text ++ "\n")⟩
  | .generate document output => generate host document output
  | .manifest => return .success (Protocol.manifest.pretty ++ "\n")
  | .display text => return .success text
  | .misuse => return .usage

end RowSchema.Command
