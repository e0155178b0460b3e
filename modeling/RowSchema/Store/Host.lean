import RowSchema.Time.Instant

/-!
# Files and time

What a program asks of the machine that it runs on: to make directories, to write and read files,
and to tell the time.

## Main definitions

* `FileFault` — why a request is refused, and the wording
* `Host` — the requests, as actions of a monad
* `joinPath` — the path of a file in a directory
* `pathSteps` — the names that a path consists of
-/

namespace RowSchema

/-- Why a request for a file or a directory is refused. -/
inductive FileFault where
  /-- There is no such file or directory. -/
  | notFound
  /-- There is something in the place of a new directory. -/
  | alreadyExists
  /-- A file is in the place of a directory on the way. -/
  | notDirectory
  /-- A directory is in the place of a file. -/
  | isDirectory
  /-- A name or a whole path has more bytes than there is room for. -/
  | nameTooLong
  /-- No path can hold the null character. -/
  | nullInPath
  /-- A refusal of another kind, in the words of the machine. -/
  | other (text : String)
deriving DecidableEq, Repr

/-- The wording of a refusal. -/
def FileFault.message : FileFault → String
  | .notFound => "No such file or directory (os error 2)"
  | .alreadyExists => "File exists (os error 17)"
  | .notDirectory => "Not a directory (os error 20)"
  | .isDirectory => "Is a directory (os error 21)"
  | .nameTooLong => "File name too long (os error 36)"
  | .nullInPath => "file name contained an unexpected NUL byte"
  | .other text => text

/-- What a program asks of its machine. -/
structure Host (m : Type → Type) where
  /-- Makes a directory and the directories on the way to it, as far as they are missing. -/
  makeDirs : String → m (Except FileFault Unit)
  /-- Gives a file a content, which takes the place of any content it has. -/
  write : String → String → m (Except FileFault Unit)
  /-- The content of a file. -/
  read : String → m (Except FileFault String)
  /-- The present time. -/
  now : m Time.Instant

/-! ### Paths -/

/-- The parts of a text between the characters `c`. -/
def splitAt (c : Char) : List Char → List (List Char)
  | [] => [[]]
  | d :: rest =>
    if d = c then [] :: splitAt c rest
    else
      match splitAt c rest with
      | [] => [[d]]
      | part :: parts => (d :: part) :: parts

/-- The steps of a path. Slashes only separate. -/
def pathSteps (path : String) : List String :=
  ((splitAt '/' path.toList).filter (!·.isEmpty)).map String.ofList

/-- The path of `name` in the directory `dir`. A slash at the end of `dir` is not doubled. -/
def joinPath (dir name : String) : String :=
  if dir = "" ∨ dir.toList.getLast? = some '/' then dir ++ name else dir ++ "/" ++ name

end RowSchema
