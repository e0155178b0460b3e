import RowSchema.Datamodel.Basic

/-!
# Type expressions

A type expression says how the schema of a field is put together. It is written into a generated
file or turned into a schema.

## Main definitions

* `TypeExpr` — the expressions, with `TypeExpr.Scalar` for their leaves
* `TypeExpr.Scalar.ofName?` — the leaf for a scalar type of a data model
-/

namespace RowSchema

/-- A leaf that does not refer to an enum. -/
inductive TypeExpr.Scalar where
  | string
  | number
  | bigint
  | boolean
  | date
  | unknown
  | uint8Array
  | uuid
  | never
deriving DecidableEq, Repr

/-- How the schema of a field is put together. -/
inductive TypeExpr where
  | scalar (s : TypeExpr.Scalar)
  /-- The enum of this name. -/
  | enum (name : String)
  | array (item : TypeExpr)
  | undefinedOr (inner : TypeExpr)
  | column (select insert update : TypeExpr)
  | generated (inner : TypeExpr)
  /-- A field that is stored under `key`. -/
  | fromKey (inner : TypeExpr) (key : String)
deriving DecidableEq, Repr

namespace TypeExpr

/-- The leaf for a scalar type. Decimal numbers stay texts, which keeps their precision. -/
def Scalar.ofName? (name : String) : Option Scalar :=
  match name with
  | "String" => some .string
  | "Int" => some .number
  | "Float" => some .number
  | "BigInt" => some .bigint
  | "Decimal" => some .string
  | "Boolean" => some .boolean
  | "DateTime" => some .date
  | "Json" => some .unknown
  | "Bytes" => some .uint8Array
  | _ => none

/-- A column that can be read but neither inserted nor changed. -/
def readOnly (select : TypeExpr) : TypeExpr :=
  .column select (.scalar .never) (.scalar .never)

end TypeExpr

end RowSchema
