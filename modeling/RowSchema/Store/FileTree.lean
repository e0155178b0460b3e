import RowSchema.Store.Host

/-!
# File trees

The files and directories of a file system, as a value, with the directory that a program works in.
Requests act on the tree as a file system does that has no links and no permissions.

## Main definitions

* `Place` — where something is in the tree
* `Place.startOf` — where a path starts
* `FileTree` — the tree
* `FileTree.makeDirs`, `FileTree.write`, `FileTree.read` — the requests
* `FileTree.host` — a machine that consists of a tree and a clock that stands still

## Implementation notes

A path is walked step by step, from the root if it starts with a slash and from the working
directory if it does not. A step up is only taken from a directory that exists. The root is its own
parent.

The working directory and the directories around it are there from the start and stay there, so
they are not listed. Only what is inside the working directory is listed among the files of the
tree; what is made elsewhere can be found again.

A place carries its depth although the names determine it. Places are looked up in a list, and two
of different depths are told apart without a look at their names, many of which they may share.
-/

namespace RowSchema

/-! ### Places -/

/-- Where something is, as seen from the root. -/
structure Place where
  /-- How many names there are. -/
  depth : Nat
  /-- The names from the innermost outwards. -/
  names : List String
deriving DecidableEq, Repr, Inhabited

namespace Place

/-- The root itself. -/
def root : Place := ⟨0, []⟩

/-- The place of a name in the directory at a place. -/
def inside (p : Place) (name : String) : Place := ⟨p.depth + 1, name :: p.names⟩

/-- The place one step up. There is nothing above the root. -/
def above (p : Place) : Place := ⟨p.depth - 1, p.names.tail⟩

/-- Whether a place is another one or a directory around it. -/
def encloses (p other : Place) : Bool :=
  decide (p.depth ≤ other.depth) && p.names.isSuffixOf other.names

/-- The path to a place from one that encloses it. -/
def pathFrom (p start : Place) : String :=
  String.intercalate "/" (p.names.take (p.depth - start.depth)).reverse

/-- Where a path starts if the working directory is `home`. -/
def startOf (home : Place) (path : String) : Place :=
  if path.toList.head? = some '/' then root else home

end Place

/-! ### Trees -/

/-- What is found at the end of a path. -/
inductive FileTree.Node where
  | directory
  | file (content : String)
deriving DecidableEq, Repr

/-- Nodes by their places. -/
structure FileTree where
  /-- The working directory. It is a directory without being listed, as those around it are. -/
  home : Place
  nodes : List (Place × FileTree.Node)
deriving Repr, Inhabited

namespace FileTree

/-- The tree of an empty working directory. -/
def empty : FileTree := ⟨Place.root.inside "work", []⟩

/-- The node at a place. -/
def node? (t : FileTree) (place : Place) : Option Node :=
  if place.encloses t.home then some .directory else t.nodes.lookup place

/-- The tree with a node at a place. -/
def put (t : FileTree) (place : Place) (n : Node) : FileTree :=
  { t with nodes := (place, n) :: t.nodes.filter (·.1 ≠ place) }

/-- The contents of all files inside the working directory, by their paths from it. -/
def files (t : FileTree) : List (String × String) :=
  t.nodes.filterMap fun (place, n) =>
    match n with
    | .file content =>
      if t.home.encloses place then some (place.pathFrom t.home, content) else none
    | .directory => none

@[simp]
theorem home_put (t : FileTree) (place : Place) (n : Node) : (t.put place n).home = t.home := rfl

theorem node?_put {t : FileTree} {place : Place} (h : t.node? place ≠ some .directory) (n : Node)
    (other : Place) :
    (t.put place n).node? other = if other = place then some n else t.node? other := by
  have hplace : place.encloses t.home = false :=
    Bool.eq_false_iff.2 fun hencloses => h (by simp [node?, hencloses])
  by_cases ho : other = place
  · subst ho
    simp [node?, put, hplace]
  · by_cases hr : other.encloses t.home = true
    · simp [node?, hr, ho]
    · simp only [node?, hr, Bool.false_eq_true, if_false, ho, put]
      have hne : (other == place) = false := by simpa using ho
      rw [List.lookup_cons, hne]
      simp only
      induction t.nodes with
      | nil => rfl
      | cons entry rest ih =>
        obtain ⟨k, v⟩ := entry
        by_cases hk : k = place
        · subst hk
          rw [List.filter_cons_of_neg (by simp), ih, List.lookup_cons, hne]
        · rw [List.filter_cons_of_pos (by simpa using hk), List.lookup_cons, List.lookup_cons, ih]

/-! ### Paths -/

/-- The greatest number of bytes of a name. -/
def maxNameSize : Nat := 255

/-- The greatest number of bytes of a path. -/
def maxPathSize : Nat := 4095

/-- Why a path is refused before it is walked, if it is. -/
def pathFault? (path : String) : Option FileFault :=
  if path.toList.contains '\x00' then some .nullInPath
  else if maxPathSize < path.utf8ByteSize then some .nameTooLong
  else none

/-- Looks for a name in the directory at a place. -/
def find (t : FileTree) (place : Place) (name : String) : Except FileFault (Option Node) :=
  if maxNameSize < name.utf8ByteSize then .error .nameTooLong
  else .ok (t.node? (place.inside name))

/-- The steps to something that is to be opened. A slash at the end asks for a directory, as a last
step to the place itself does. -/
def stepsToOpen (path : String) : List String :=
  if path.toList.getLast? = some '/' then pathSteps path ++ ["."] else pathSteps path

/-- Walks from a directory and gives the directory at the end. -/
def enter (t : FileTree) (place : Place) : List String → Except FileFault Place
  | [] => .ok place
  | step :: rest =>
    if step = "." then t.enter place rest
    else if step = ".." then t.enter place.above rest
    else
      match t.find place step with
      | .error e => .error e
      | .ok none => .error .notFound
      | .ok (some (.file _)) => .error .notDirectory
      | .ok (some .directory) => t.enter (place.inside step) rest

/-! ### Requests -/

/-- Whether steps only stay where they are. -/
def staysPut (steps : List String) : Bool :=
  steps.all (· = ".")

/-- Makes the directories that are missing along the steps from a directory. A failure leaves what
has been made; `made` tells whether something has been.

The path is asked for as a whole first, and each directory of the way only once something is found
missing there. So a file is in the place of a new directory if it is the last step, or if something
has been made before it and more than steps to the place itself follows. In all other cases the file
is on the way. Steps to the place itself make nothing, but where they end the path, the directory
before them has to be there. -/
def makeAlong (t : FileTree) (made : Bool) (place : Place) :
    List String → FileTree × Except FileFault Unit
  | [] => (t, .ok ())
  | step :: rest =>
    if step = "." then t.makeAlong made place rest
    else if step = ".." then t.makeAlong made place.above rest
    else
      match t.find place step with
      | .error e => (t, .error e)
      | .ok (some .directory) => t.makeAlong made (place.inside step) rest
      | .ok (some (.file _)) =>
        if rest = [] ∨ (made = true ∧ staysPut rest = false) then (t, .error .alreadyExists)
        else (t, .error .notDirectory)
      | .ok none =>
        if rest ≠ [] ∧ staysPut rest = true then (t, .error .notFound)
        else (t.put (place.inside step) .directory).makeAlong true (place.inside step) rest

/-- Makes a directory and what is missing on the way to it. -/
def makeDirs (t : FileTree) (path : String) : FileTree × Except FileFault Unit :=
  match pathFault? path with
  | some e => (t, .error e)
  | none => t.makeAlong false (t.home.startOf path) (pathSteps path)

/-- The place that a path to a file leads to, with what is there. -/
def locate (t : FileTree) (path : String) : Except FileFault (Place × Option Node) := do
  if let some e := pathFault? path then throw e
  let all := stepsToOpen path
  match all.getLast? with
  | none => if path = "" then throw .notFound else throw .isDirectory
  | some last =>
    let dir ← t.enter (t.home.startOf path) all.dropLast
    if last = "." ∨ last = ".." then throw .isDirectory
    return (dir.inside last, ← t.find dir last)

/-- Gives a file a content. -/
def write (t : FileTree) (path content : String) : FileTree × Except FileFault Unit :=
  match t.locate path with
  | .error e => (t, .error e)
  | .ok (_, some .directory) => (t, .error .isDirectory)
  | .ok (place, _) => (t.put place (.file content), .ok ())

/-- The content of a file. -/
def read (t : FileTree) (path : String) : Except FileFault String := do
  match ← t.locate path with
  | (_, some (.file content)) => return content
  | (_, some .directory) => throw .isDirectory
  | (_, none) => throw .notFound

/-! ### A machine -/

/-- A machine whose files are a tree and whose clock stands still. -/
def host (time : Time.Instant) : Host (StateM FileTree) where
  makeDirs path := fun t => let (t', r) := t.makeDirs path; (r, t')
  write path content := fun t => let (t', r) := t.write path content; (r, t')
  read path := fun t => (t.read path, t)
  now := pure time

end FileTree

end RowSchema
