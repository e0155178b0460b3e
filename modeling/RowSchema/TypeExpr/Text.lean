import RowSchema.TypeExpr.Basic

/-!
# The source text of a type expression

## Main definitions

* `TypeExpr.text` — the expression as it stands in a generated file

## Implementation notes

The equations of `text` are stated one by one and hold by `rfl`. Those that `simp` would derive
from the definition make it evaluate the literals.
-/

namespace RowSchema.TypeExpr

/-- The name under which a leaf is exported. -/
def Scalar.text : Scalar → String
  | .string => "Schema.String"
  | .number => "Schema.Number"
  | .bigint => "Schema.BigInt"
  | .boolean => "Schema.Boolean"
  | .date => "Schema.Date"
  | .unknown => "Schema.Unknown"
  | .uint8Array => "Schema.Uint8Array"
  | .uuid => "Schema.UUID"
  | .never => "Schema.Never"

/-- The source text. An enum is referred to by its name, and a key stands in quotes as it is. -/
def text : TypeExpr → String
  | .scalar s => s.text
  | .enum name => name
  | .array item => "Schema.Array(" ++ item.text ++ ")"
  | .undefinedOr inner => "Schema.UndefinedOr(" ++ inner.text ++ ")"
  | .column select insert update =>
    "columnType(" ++ select.text ++ ", " ++ insert.text ++ ", " ++ update.text ++ ")"
  | .generated inner => "generated(" ++ inner.text ++ ")"
  | .fromKey inner key =>
    "Schema.propertySignature(" ++ inner.text ++ ").pipe(Schema.fromKey(\"" ++ key ++ "\"))"

theorem text_scalar (s : Scalar) : (scalar s).text = s.text := rfl

theorem text_enum (name : String) : (enum name).text = name := rfl

theorem text_array (item : TypeExpr) :
    (array item).text = "Schema.Array(" ++ item.text ++ ")" := rfl

theorem text_undefinedOr (inner : TypeExpr) :
    (undefinedOr inner).text = "Schema.UndefinedOr(" ++ inner.text ++ ")" := rfl

theorem text_column (select insert update : TypeExpr) :
    (column select insert update).text =
      "columnType(" ++ select.text ++ ", " ++ insert.text ++ ", " ++ update.text ++ ")" := rfl

theorem text_generated (inner : TypeExpr) :
    (generated inner).text = "generated(" ++ inner.text ++ ")" := rfl

theorem text_fromKey (inner : TypeExpr) (key : String) :
    (fromKey inner key).text =
      "Schema.propertySignature(" ++ inner.text ++ ").pipe(Schema.fromKey(\"" ++ key
        ++ "\"))" := rfl

end RowSchema.TypeExpr
