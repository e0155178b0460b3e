import RowSchema.TypeExpr.Basic
import RowSchema.TypeExpr.UuidHint

/-!
# The type expression of a field

The expression of a field is built from inside out: its base type, a list around it, `undefined`
beside it, the visibility of the column, and the key under which it is stored.

## Main definitions

* `Resolution` — what is known of a field before it becomes an expression
* `Datamodel.Field.resolve`, `Datamodel.Field.typeExpr` — the two steps

## Implementation notes

Every field has an expression. A type that means nothing becomes `unknown`.
-/

namespace RowSchema

open Datamodel (Field Registry)

/-- What is known of a field before it becomes an expression. -/
structure Resolution where
  /-- The base type with the list and `undefined` around it. -/
  base : TypeExpr
  /-- The store can fill the column in, so it may be left out on insertion. -/
  isGenerated : Bool
  /-- The store fills the column in and it identifies the row, so it is only read. -/
  isReadOnly : Bool
deriving DecidableEq, Repr

namespace Datamodel.Field

/-- The base type of a field. The scalar types come before enums of the same name. -/
def baseType (f : Field) (enums : Registry) : TypeExpr :=
  if f.kind = .unsupported then .scalar .unknown
  else if f.typeName = "String" ∧ f.isUuid then .scalar .uuid
  else
    match TypeExpr.Scalar.ofName? f.typeName with
    | some s => .scalar s
    | none =>
      if (Dict.get? enums f.typeName).isSome then .enum f.typeName else .scalar .unknown

/-- The base type with the list and `undefined` around it. A column with a default is never
absent when it is read. -/
def wrappedType (f : Field) (enums : Registry) : TypeExpr :=
  let base := f.baseType enums
  let listed := if f.isList then .array base else base
  if !f.isRequired && !f.hasDefaultValue then .undefinedOr listed else listed

/-- Looks at all parts of a field but its storage name. -/
def resolve (f : Field) (enums : Registry) : Resolution where
  base := f.wrappedType enums
  isGenerated := f.hasDefaultValue && !f.isId
  isReadOnly := f.hasDefaultValue && f.isId

/-- The expression of a field. -/
def typeExpr (f : Field) (enums : Registry) : TypeExpr :=
  let r := f.resolve enums
  let visible :=
    if r.isReadOnly then r.base.readOnly
    else if r.isGenerated then .generated r.base
    else r.base
  match f.storageName with
  | some key => .fromKey visible key
  | none => visible

end Datamodel.Field

end RowSchema
