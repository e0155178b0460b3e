import RowSchema.Datamodel.Basic

/-!
# The module of the enums

Each enum becomes a schema of its stored values and a type of the same name.

## Main definitions

* `TypeScript.enumModule` — the text of the module
-/

namespace RowSchema.TypeScript

/-- A stored value as an argument: in quotes, as it is. -/
def literalArgument (v : Datamodel.EnumValue) : String :=
  "\"" ++ v.stored ++ "\""

/-- The declarations of an enum. -/
def enumDeclaration (e : Datamodel.Enum) : String :=
  "export const " ++ e.name ++ " = Schema.Literal("
    ++ String.intercalate ", " (e.values.map literalArgument) ++ ");\n\nexport type " ++ e.name
    ++ " = Schema.Schema.Type<typeof " ++ e.name ++ ">;"

/-- The module with all enums in the order of their declaration. -/
def enumModule (header : String) (d : Datamodel) : String :=
  header ++ "\n\nimport \x7b Schema \x7d from \"effect\";\n\n"
    ++ String.intercalate "\n\n" (d.enums.map enumDeclaration)

end RowSchema.TypeScript
