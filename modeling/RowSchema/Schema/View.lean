import RowSchema.Schema.Union

/-!
# The views of a record

What is read from a table, what is inserted into it and what is changed in it have different
shapes. All three are derived from one record whose columns may have three sides.

## Main definitions

* `View` — the three operations
* `Schema.selectable`, `Schema.insertable`, `Schema.updatable` — the three shapes
* `Schema.viewed` — the shape of an operation

## Implementation notes

A column is replaced by its side first, and dropped afterwards if that side is `never`. A schema
that is not a record has no columns and is its own view.
-/

namespace RowSchema

/-- What is done with a row. -/
inductive View where
  | select
  | insert
  | update
deriving DecidableEq, Repr

namespace Schema

/-- The side of a column for a view. Any other schema serves all of them. -/
def side (v : View) : Schema → Schema
  | .column select insert update =>
    match v with
    | .select => select
    | .insert => insert
    | .update => update
  | s => s

/-- The properties that take part in a view, each with its side. -/
def projected (v : View) (properties : List (Property Schema)) : List (Property Schema) :=
  (properties.map fun p => { p with schema := p.schema.side v }).filter (!·.schema.isNever)

/-- Applies `f` to the properties of a record and leaves any other schema as it is. -/
def mapProperties (f : List (Property Schema) → List (Property Schema)) : Schema → Schema
  | .struct properties => .struct (f properties)
  | s => s

/-- Every column as it is read. -/
def selectable : Schema → Schema :=
  mapProperties (projected .select)

/-- The columns that an insertion may give. One that can be absent may be left out. -/
def insertable : Schema → Schema :=
  mapProperties fun properties =>
    (projected .insert properties).map fun p =>
      { p with optional := p.optional || p.schema.admitsAbsence }

/-- The columns that a change may give. Each may be left out. -/
def updatable : Schema → Schema :=
  mapProperties fun properties =>
    (projected .update properties).map fun p =>
      { p with schema := p.schema.orUndefined, optional := true }

/-- The shape of a record for an operation. -/
def viewed (s : Schema) : View → Schema
  | .select => s.selectable
  | .insert => s.insertable
  | .update => s.updatable

end Schema

end RowSchema
