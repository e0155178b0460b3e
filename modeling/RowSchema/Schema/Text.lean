import RowSchema.Schema.Basic
import RowSchema.Text.Quoted

/-!
# The text of a schema

A schema is written as a type of the language in which its records are used.

## Main definitions

* `Schema.text` — the type
-/

namespace RowSchema.Schema

/-- The type of an atom. -/
def Atom.text : Atom → String
  | .never => "never"
  | .unknown => "unknown"
  | .undefined => "undefined"
  | .null => "null"
  | .string => "string"
  | .number => "number"
  | .bigint => "bigint"
  | .boolean => "boolean"
  | .date => "Date"
  | .uuid => "UUID"
  | .uint8Array => "Uint8Array"
  | .literal values => String.intercalate " | " (values.map Text.quoted)

mutual

/-- The type that a schema describes. -/
def text : Schema → String
  | .atom a => a.text
  | .array item => "ReadonlyArray<" ++ item.text ++ ">"
  | .union members => String.intercalate " | " (memberTexts members)
  | .struct [] => "\x7b\x7d"
  | .struct (p :: ps) =>
    "\x7b " ++ String.intercalate "; " (propertyTexts (p :: ps)) ++ " \x7d"
  | .column select insert update =>
    "ColumnType<" ++ select.text ++ ", " ++ insert.text ++ ", " ++ update.text ++ ">"

/-- The types of the members of a union. -/
def memberTexts : List Schema → List String
  | [] => []
  | m :: ms => m.text :: memberTexts ms

/-- The fields of a record type. -/
def propertyTexts : List (Property Schema) → List String
  | [] => []
  | p :: ps =>
    ("readonly " ++ p.name ++ (if p.optional then "?" else "") ++ ": " ++ p.schema.text)
      :: propertyTexts ps

end

end RowSchema.Schema
