import RowSchema.Schema.Union
import RowSchema.TypeExpr.Basic

/-!
# The schema of a type expression

## Main definitions

* `TypeExpr.toSchema` — the schema that an expression describes
* `TypeExpr.toProperty` — the expression as a field of a record
-/

namespace RowSchema.TypeExpr

open Datamodel (Registry)

/-- The schema of a leaf. -/
def Scalar.toSchema : Scalar → Schema
  | .string => .atom .string
  | .number => .atom .number
  | .bigint => .atom .bigint
  | .boolean => .atom .boolean
  | .date => .atom .date
  | .unknown => .atom .unknown
  | .uint8Array => .atom .uint8Array
  | .uuid => .atom .uuid
  | .never => .atom .never

/-- The schema that an expression describes. Nothing is known of the values of an enum that is not
registered. -/
def toSchema (enums : Registry) : TypeExpr → Schema
  | .scalar s => s.toSchema
  | .enum name =>
    match Dict.get? enums name with
    | some values => Schema.literal values
    | none => .unknown
  | .array item => .array (item.toSchema enums)
  | .undefinedOr inner => (inner.toSchema enums).orUndefined
  | .column select insert update =>
    .column (select.toSchema enums) (insert.toSchema enums) (update.toSchema enums)
  | .generated inner => (inner.toSchema enums).generated
  | .fromKey inner _ => inner.toSchema enums

/-- The field `name` of a record. The outermost key decides where the field is stored; keys below
other constructors have no effect. -/
def toProperty (enums : Registry) (name : String) : TypeExpr → Schema.Property Schema
  | .fromKey inner key => (inner.toProperty enums name).storedAs key
  | e => .required name (e.toSchema enums)

end RowSchema.TypeExpr
