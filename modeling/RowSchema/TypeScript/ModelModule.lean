import RowSchema.TypeExpr.Resolve
import RowSchema.TypeExpr.Text

/-!
# The module of the models

Each model becomes a record of type expressions, the views of that record, and a type for each
view. An interface lists the tables.

## Main definitions

* `TypeScript.modelModule` — the text of the module
-/

namespace RowSchema.TypeScript

open Datamodel (Field Model Registry)

/-- The line that imports the enums. Without enums there is none. -/
def enumImport (d : Datamodel) : List String :=
  if d.enums.isEmpty then []
  else
    ["import \x7b " ++ String.intercalate ", " (d.enums.map Datamodel.Enum.name)
      ++ " \x7d from \"./enums\";"]

/-- The lines that import what the module uses. -/
def imports (d : Datamodel) : String :=
  String.intercalate "\n" (
    ["import \x7b Schema \x7d from \"effect\";",
      "import \x7b columnType, generated, getSchemas \x7d from \"prisma-effect-kysely\";"]
      ++ enumImport d)

/-- The line of a field in the record of its model. -/
def fieldLine (enums : Registry) (f : Field) : String :=
  "  " ++ f.name ++ ": " ++ (f.typeExpr enums).text

/-- The type of a view: `model` in the view `view`, exported with the ending `ending`. -/
def viewType (model ending view : String) : String :=
  "export type " ++ model ++ ending ++ " = Schema.Schema.Type<typeof " ++ model ++ "." ++ view
    ++ ">;"

/-- The declarations of a model: the record, its views and their types. -/
def modelDeclaration (enums : Registry) (m : Model) : String :=
  "// " ++ m.name ++ " Base Schema\nexport const _" ++ m.name ++ " = Schema.Struct(\x7b\n"
    ++ String.intercalate ",\n" (m.schemaFields.map (fieldLine enums))
    ++ "\n\x7d);\n\nexport const " ++ m.name ++ " = getSchemas(_" ++ m.name ++ ");\n\n"
    ++ viewType m.name "Select" "Selectable" ++ "\n"
    ++ viewType m.name "Insert" "Insertable" ++ "\n"
    ++ viewType m.name "Update" "Updateable"

/-- The line of a table in the interface. -/
def tableLine (m : Model) : String :=
  "  " ++ m.tableName ++ ": Schema.Schema.Encoded<typeof _" ++ m.name ++ ">;"

/-- The interface of all tables. -/
def databaseInterface (models : List Model) : String :=
  "// Kysely Database Interface\nexport interface DB \x7b\n"
    ++ String.intercalate "\n" (models.map tableLine) ++ "\n\x7d"

/-- The module with all models that get a schema, in name order. -/
def modelModule (header : String) (d : Datamodel) : String :=
  let models := d.schemaModels
  header ++ "\n\n" ++ imports d ++ "\n\n"
    ++ String.intercalate "\n\n" (models.map (modelDeclaration d.registry)) ++ "\n\n"
    ++ databaseInterface models

end RowSchema.TypeScript
