import RowSchema.Datamodel.Basic
import RowSchema.Json.Form

/-!
# Reading data models

The forms of a data model and its parts.

## Main definitions

* `Datamodel.ofJson`, `Datamodel.Field.ofJson` and so on — the readers
-/

namespace RowSchema

open Json (Reader Form asString asBool asList asValue asVariant)

namespace Datamodel

/-- A name, or an object with the name as its only key. -/
def FieldKind.ofJson : Reader FieldKind :=
  asVariant [("scalar", .scalar), ("object", .object), ("enum", .enum),
    ("unsupported", .unsupported)]

/-- A name and perhaps a list of parameters. -/
def NativeType.ofJson : Reader NativeType :=
  Form.readTuple (NativeType.mk <$> Form.required "0" asString
    <*> Form.optional "1" (asList asString) []) "tuple struct NativeType"

/-- The fields of a function call: its name and its arguments. -/
def callForm : Form (String × List Json) :=
  Prod.mk <$> Form.required "name" asString <*> Form.optional "args" (asList asValue) []

/-- A function call if it reads as one, else a list, and else a single value. -/
def DefaultValue.ofJson : Reader DefaultValue := fun j =>
  match callForm.read "struct FunctionCall" j with
  | .ok (name, args) => .ok (.call name args)
  | .error _ =>
    match j with
    | .array items => .ok (.list (items.map Json.value))
    | j => .ok (.scalar j.value)

/-- The fields of a field, in the order in which an array gives them. -/
def Field.form : Form Field :=
  Field.mk <$> Form.required "name" asString
    <*> Form.nullable "dbName" asString
    <*> Form.required "kind" FieldKind.ofJson
    <*> Form.optional "isList" asBool false
    <*> Form.optional "isRequired" asBool false
    <*> Form.optional "isId" asBool false
    <*> Form.optional "hasDefaultValue" asBool false
    <*> Form.required "type" asString
    <*> Form.nullable "nativeType" NativeType.ofJson
    <*> Form.nullable "default" DefaultValue.ofJson
    <*> Form.nullable "documentation" asString

/-- Reads a field. -/
def Field.ofJson : Reader Field :=
  Field.form.read "struct Field"

/-- Reads a model. -/
def Model.ofJson : Reader Model :=
  Form.read (Model.mk <$> Form.required "name" asString
    <*> Form.nullable "dbName" asString
    <*> Form.required "fields" (asList Field.ofJson)) "struct Model"

/-- Reads a value of an enum. -/
def EnumValue.ofJson : Reader EnumValue :=
  Form.read (EnumValue.mk <$> Form.required "name" asString
    <*> Form.nullable "dbName" asString) "struct EnumValue"

/-- Reads an enum. -/
def Enum.ofJson : Reader Enum :=
  Form.read (Enum.mk <$> Form.required "name" asString
    <*> Form.required "values" (asList EnumValue.ofJson)) "struct DatamodelEnum"

/-- Reads a data model, in which both lists may be missing. -/
def ofJson : Reader Datamodel :=
  Form.read (Datamodel.mk <$> Form.optional "enums" (asList Enum.ofJson) []
    <*> Form.optional "models" (asList Model.ofJson) []) "struct Datamodel"

end Datamodel

end RowSchema
