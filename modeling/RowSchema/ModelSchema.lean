import RowSchema.Schema.View
import RowSchema.TypeExpr.Resolve
import RowSchema.TypeExpr.Schema

/-!
# The schemas of models

The record of a model has one property for each of its columns. Its views are the shapes in which
rows of the table are read, inserted and changed.

## Main definitions

* `ModelSchema`, `Datamodel.Model.toSchema` — the schema of a model
* `Datamodel.modelSchemas` — the schemas of a data model

## Implementation notes

The three views are not stored beside the record. They are functions of it, `Schema.selectable` and
the other two, and whoever wants a view applies one of them.
-/

namespace RowSchema

open Datamodel (Registry)

/-- The schema of a model under the names of the model and of its table. -/
structure ModelSchema where
  name : String
  table : String
  /-- The record, columns with all their sides. -/
  base : Schema
deriving DecidableEq, Repr

namespace Datamodel

/-- The property of a field in the record of its model. -/
def Field.toProperty (f : Field) (enums : Registry) : Schema.Property Schema :=
  (f.typeExpr enums).toProperty enums f.name

/-- The schema of a model. -/
def Model.toSchema (m : Model) (enums : Registry) : ModelSchema where
  name := m.name
  table := m.tableName
  base := .struct (m.schemaFields.map (·.toProperty enums))

/-- The schemas of all models that get one, in name order. -/
def modelSchemas (d : Datamodel) : List ModelSchema :=
  let enums := d.registry
  d.schemaModels.map (·.toSchema enums)

end Datamodel

end RowSchema
