import RowSchema.Command.Run
import RowSchema.ModelSchema
import RowSchema.Schema.Text
import RowSchema.TypeExpr.Text

/-!
# Looking into a document

Shows what the fields of a document are resolved to, and the views of its models.

## Main definitions

* `Command.inspection` — the text for a document
* `Command.inspect` — runs the command line
-/

namespace RowSchema.Command

open Datamodel (Field Model Registry)

/-- A truth value in words. -/
def truth (b : Bool) : String := if b then "true" else "false"

/-- A field with its expression and its visibility. -/
def fieldReport (enums : Registry) (f : Field) : String :=
  let r := f.resolve enums
  "  " ++ f.name ++ ": " ++ (f.typeExpr enums).text ++ "  [generated: " ++ truth r.isGenerated
    ++ ", column_type: " ++ truth r.isReadOnly ++ "]\n"

/-- A model with its table and its fields. -/
def modelReport (enums : Registry) (m : Model) : String :=
  "\n" ++ m.name ++ " (" ++ m.tableName ++ ")\n"
    ++ String.join (m.schemaFields.map (fieldReport enums))

/-- A model with its views. -/
def viewReport (s : ModelSchema) : String :=
  "  " ++ s.name ++ "\n    Selectable: " ++ s.base.selectable.text ++ "\n    Insertable: "
    ++ s.base.insertable.text ++ "\n    Updatable:  " ++ s.base.updatable.text ++ "\n"

/-- What there is to see in a document. -/
def inspection (document : Document) : String :=
  let d := document.datamodel
  "Enums: " ++ toString d.registry.length ++ "\n"
    ++ String.join (d.schemaModels.map (modelReport d.registry)) ++ "\nViews:\n"
    ++ String.join (d.modelSchemas.map viewReport)

variable {m : Type → Type} [Monad m]

/-- Shows the document of the file that the first argument names. Further arguments are passed
over. -/
def inspect (host : Host m) (args : List String) : m Outcome := do
  match args with
  | [] => return ⟨2, "", "usage: debug_dmmf <dmmf.json>\n"⟩
  | path :: _ =>
    match ← host.read path with
    | .error fault => return ⟨1, "Error: " ++ fault.message ++ "\n", ""⟩
    | .ok text =>
      match Generator.readDocument text with
      | .error e => return ⟨1, "Error: " ++ e.message ++ "\n", ""⟩
      | .ok document => return .success (inspection document)

end RowSchema.Command
