import RowSchema.Datamodel.Name
import RowSchema.Json.Basic

/-!
# Data models

A data model lists the models and the enums of a database schema. Each model stands for a table,
and each of its fields for a column or for a relation to another model.

## Main definitions

* `Datamodel`, `Datamodel.Model`, `Datamodel.Field`, `Datamodel.Enum` — the model and its parts
* `Datamodel.schemaModels`, `Datamodel.Model.schemaFields` — what gets a schema, in name order
* `Datamodel.Registry` — the values of the enums by name
-/

namespace RowSchema

/-- The name, unless it is empty. An empty name in the database means that there is none. -/
def nonEmpty? (name : Option String) : Option String :=
  name.filter (· ≠ "")

namespace Datamodel

/-- What a field stands for. -/
inductive FieldKind where
  | scalar
  | object
  | enum
  | unsupported
deriving DecidableEq, Repr

/-- The type that a column has in the database, with its parameters. -/
structure NativeType where
  name : String
  args : List String
deriving DecidableEq, Repr

/-- What a column holds if a row does not give it. -/
inductive DefaultValue where
  | call (name : String) (args : List Json)
  | list (items : List Json)
  | scalar (value : Json)
deriving DecidableEq, Repr

/-- A field of a model. -/
structure Field where
  name : String
  dbName : Option String
  kind : FieldKind
  isList : Bool
  isRequired : Bool
  isId : Bool
  hasDefaultValue : Bool
  /-- The name of a scalar type, of an enum or of the related model. -/
  typeName : String
  nativeType : Option NativeType
  default : Option DefaultValue
  documentation : Option String
deriving DecidableEq, Repr

/-- The name of the column, if the field is renamed in the database. -/
def Field.storageName (f : Field) : Option String :=
  (nonEmpty? f.dbName).filter (· ≠ f.name)

/-- The name of the column. -/
def Field.columnKey (f : Field) : String :=
  f.storageName.getD f.name

/-- Whether the field stands for a column that gets a schema. -/
def Field.isColumn (f : Field) : Bool :=
  match f.kind with
  | .scalar | .enum => true
  | .object | .unsupported => false

/-- A model stands for a table. -/
structure Model where
  name : String
  dbName : Option String
  fields : List Field
deriving DecidableEq, Repr

namespace Model

/-- The name of the table. -/
def tableName (m : Model) : String :=
  (nonEmpty? m.dbName).getD m.name

/-- A model whose name starts with an underscore joins two tables and is not meant to be seen. -/
def isInternal (m : Model) : Bool :=
  m.name.toList.head? == some '_'

/-- The fields that get a schema, in name order. -/
def schemaFields (m : Model) : List Field :=
  sortByName Field.name (m.fields.filter Field.isColumn)

end Model

/-- A value of an enum. -/
structure EnumValue where
  name : String
  dbName : Option String
deriving DecidableEq, Repr

/-- The value as the database has it. -/
def EnumValue.stored (v : EnumValue) : String :=
  (nonEmpty? v.dbName).getD v.name

/-- A type with a fixed set of values. -/
structure Enum where
  name : String
  values : List EnumValue
deriving DecidableEq, Repr

end Datamodel

/-- The enums and models of a database schema, in the order of their declaration. -/
structure Datamodel where
  enums : List Datamodel.Enum
  models : List Datamodel.Model
deriving DecidableEq, Repr, Inhabited

namespace Datamodel

/-- The models that get a schema, in name order. -/
def schemaModels (d : Datamodel) : List Model :=
  sortByName Model.name (d.models.filter (!·.isInternal))

/-- The stored values of enums under their names. -/
abbrev Registry := Dict (List String)

/-- The enums of the data model. Of several with one name the last one counts. -/
def registry (d : Datamodel) : Registry :=
  Dict.ofEntries (d.enums.map fun e => (e.name, e.values.map EnumValue.stored))

end Datamodel

end RowSchema
