import RowSchema.Datamodel.Basic
import RowSchema.Text.Search

/-!
# Which text fields hold UUIDs

A data model has no scalar type for UUIDs. Other parts of a field tell whether its texts are UUIDs:
the native type, a mark in the documentation, a default that makes UUIDs, or the name.

## Main definitions

* `Datamodel.Field.isUuid` — the judgement
-/

namespace RowSchema.Datamodel

/-- Whether `part` occurs in `text`. -/
def mentions (part text : String) : Bool :=
  Text.contains part.toList text.toList

/-- What an expression about UUIDs mentions: the type or the function that makes them. -/
def uuidMarks : List String :=
  ["uuid", "gen_random_uuid"]

/-- A default that the database computes by an expression about UUIDs. The expression is the
arguments with a space between neighbours, and all of them have to be strings. -/
def DefaultValue.makesUuid : DefaultValue → Bool
  | .call "dbgenerated" args =>
    match args.mapM Json.string? with
    | some texts => uuidMarks.any (mentions · (String.intercalate " " texts))
    | none => false
  | _ => false

/-- The names of identifiers. -/
def isUuidName (name : String) : Bool :=
  name == "id" || name == "uuid" || "_id".toList.isSuffixOf name.toList
    || "_uuid".toList.isSuffixOf name.toList

/-- Whether a text field holds UUIDs. -/
def Field.isUuid (f : Field) : Bool :=
  f.nativeType.any (·.name == "Uuid")
    || f.documentation.any (mentions "@db.Uuid")
    || (f.isId && f.hasDefaultValue && f.default.any DefaultValue.makesUuid)
    || isUuidName f.name

end RowSchema.Datamodel
