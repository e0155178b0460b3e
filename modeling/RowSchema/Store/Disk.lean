import RowSchema.Store.Host
import Std.Time.DateTime.Timestamp

/-!
# The machine itself

## Main definitions

* `Disk.host` — the files and the clock of the machine that the program runs on
-/

namespace RowSchema.Disk

/-- The refusal that a system error stands for. -/
def fault : IO.Error → FileFault
  | .noFileOrDirectory .. => .notFound
  | .alreadyExists .. => .alreadyExists
  | .inappropriateType _ code details =>
    if code = 20 then .notDirectory
    else if code = 21 then .isDirectory
    else .other details
  | .invalidArgument _ code details => if code = 36 then .nameTooLong else .other details
  | e => .other (toString e)

/-- Asks for something at a path. A path with a null character is refused without asking. -/
def request {α : Type} (path : String) (action : IO α) : IO (Except FileFault α) :=
  if path.toList.contains '\x00' then return .error .nullInPath
  else do
    try
      return .ok (← action)
    catch e =>
      return .error (fault e)

/-- Whether there is a directory at a path. -/
def isDirectory (path : String) : IO Bool := do
  ((← IO.currentDir) / path).isDir

/-- Makes a directory, which may be there already. -/
def ensureDir (path : String) : IO (Except FileFault Unit) := do
  match ← request path (IO.FS.createDir path) with
  | .ok () => return .ok ()
  | .error e => if ← isDirectory path then return .ok () else return .error e

/-- Makes the directories on the way to a path whose steps are given backwards, and the last of
them. `root` stands before the first step. -/
def ensureAll (root : String) : List String → IO (Except FileFault Unit)
  | [] => return .ok ()
  | last :: before => do
    let path := root ++ String.intercalate "/" (before.reverse ++ [last])
    match ← ensureDir path with
    | .error .notFound =>
      match ← ensureAll root before with
      | .ok () => ensureDir path
      | failed => return failed
    | result => return result

/-- Makes a directory and what is missing on the way to it. -/
def makeDirs (path : String) : IO (Except FileFault Unit) := do
  match ← ensureDir path with
  | .error .notFound =>
    let root := if path.toList.head? = some '/' then "/" else ""
    match ← ensureAll root ((pathSteps path).filter (· ≠ ".")).dropLast.reverse with
    | .ok () => ensureDir path
    | failed => return failed
  | result => return result

/-- The present time. -/
def now : IO Time.Instant := do
  let nanos := (← Std.Time.Timestamp.now).toNanosecondsSinceUnixEpoch.val
  return ⟨nanos.fdiv 1000000000, (nanos.fmod 1000000000).toNat⟩

/-- The machine that the program runs on. -/
def host : Host IO where
  makeDirs := makeDirs
  write path content := request path (IO.FS.writeFile path content)
  read path := request path (IO.FS.readFile path)
  now := now

end RowSchema.Disk
