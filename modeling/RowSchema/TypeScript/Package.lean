import RowSchema.Time.Instant
import RowSchema.TypeScript.EnumModule
import RowSchema.TypeScript.ModelModule

/-!
# The generated files

Three files are generated from a data model: the enums, the models, and an index that exports both.
The first two carry the time of their generation.

## Main definitions

* `TypeScript.Package` — the contents of the files
* `Datamodel.package` — generates them
-/

namespace RowSchema

namespace TypeScript

/-- The contents of the three files. -/
structure Package where
  enums : String
  types : String
  index : String
deriving DecidableEq, Repr

namespace Package

/-- The names of the files, in the order in which they are written. -/
def fileNames : List String := ["enums.ts", "types.ts", "index.ts"]

/-- The files with their names. -/
def files (p : Package) : List (String × String) :=
  fileNames.zip [p.enums, p.types, p.index]

/-- The content of a file. -/
def file? (p : Package) (name : String) : Option String :=
  Dict.get? p.files name

end Package

/-- The comment at the head of a file. -/
def header (time : Time.Instant) : String :=
  "/**\n * Generated: " ++ time.stamp ++ "\n * DO NOT EDIT MANUALLY\n */"

/-- The index exports everything and does not depend on the data model. -/
def indexModule : String :=
  "export * from \"./enums\";\nexport * from \"./types\";"

end TypeScript

/-- The files for a data model, generated at one point in time. -/
def Datamodel.package (d : Datamodel) (time : Time.Instant) : TypeScript.Package where
  enums := TypeScript.enumModule (TypeScript.header time) d
  types := TypeScript.modelModule (TypeScript.header time) d
  index := TypeScript.indexModule

end RowSchema
