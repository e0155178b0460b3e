import RowSchema.Proofs.ModelSchema.Views
import RowSchema.Proofs.TypeScript.EnumModule
import RowSchema.Proofs.TypeScript.Lexical
import RowSchema.Proofs.TypeScript.Places

/-!
# What the emitted names denote

Stored values of enums, keys of columns and names of tables are written into the generated files
without any change. The schemas use the same strings as they are. Whether a file means what the
schemas mean is therefore a question about each string alone: does it denote itself where it stands?

## The answer

A stored value or a key does if it has no quote, no backslash and no line break, a table if its name
is an identifier. There are no other such strings. A backslash is the worst of the rest: the file
compiles, and another string is meant.

## Main results

* `Datamodel.Field.exists_text_eq_of_storageName`, `Field.storedKey_toProperty` — the key of a
  column in the file and in the schema
* `Datamodel.emitted_names_denote_iff` — which of the emitted names denote the string of the schemas
-/

namespace RowSchema.Datamodel

open Text (Occurs)
open TypeScript (Alphabet DenotesLiteral IsVerbatim literalArgument)

variable {d : Datamodel} {f : Field} {key : String}

/-- The text of a renamed column ends with its key in quotes. -/
theorem Field.exists_text_eq_of_storageName (hcolumn : f.isColumn = true)
    (hkey : f.storageName = some key) (enums : Registry) :
    ∃ inner, (f.typeExpr enums).text =
      "Schema.propertySignature(" ++ inner ++ ").pipe(Schema.fromKey(" ++ ("\"" ++ key ++ "\"")
        ++ "))" := by
  obtain ⟨e, -, -, hexpr⟩ := Field.exists_typeExpr_eq hcolumn enums
  refine ⟨e.text, ?_⟩
  rw [hexpr, hkey]
  show (TypeExpr.fromKey e key).text = _
  rw [TypeExpr.text_fromKey,
    show ").pipe(Schema.fromKey(\"" = ").pipe(Schema.fromKey(" ++ "\"" from rfl,
    show "\"))" = "\"" ++ "))" from rfl]
  simp only [String.append_assoc]

theorem Field.storedKey_toProperty (hcolumn : f.isColumn = true) (enums : Registry) :
    (f.toProperty enums).storedKey = f.columnKey := by
  rw [Field.toProperty_eq hcolumn]
  rfl

/-- **Emitted names.** At each of the three places a file holds a text for the string that the
schemas use, and the text denotes that string if it may be written there as it is, and only then. -/
theorem emitted_names_denote_iff (A : Alphabet) (d : Datamodel) (time : Time.Instant) :
    (∀ e ∈ d.enums,
      Occurs ("\nexport const " ++ e.name ++ " = Schema.Literal("
        ++ String.intercalate ", " (e.values.map literalArgument) ++ ");")
        (d.package time).enums ∧
      ∀ v ∈ e.values, DenotesLiteral (literalArgument v) v.stored ↔ IsVerbatim v.stored) ∧
    (∀ name values, Dict.get? d.registry name = some values →
      ∃ e ∈ d.enums, e.name = name ∧ values = e.values.map EnumValue.stored) ∧
    (∀ m ∈ d.schemaModels, ∀ f ∈ m.schemaFields, ∀ key, f.storageName = some key →
      (∃ inner, Occurs ("\n  " ++ f.name ++ ": Schema.propertySignature(" ++ inner
        ++ ").pipe(Schema.fromKey(" ++ ("\"" ++ key ++ "\"") ++ "))") (d.package time).types) ∧
      (f.toProperty d.registry).storedKey = key ∧
      (DenotesLiteral ("\"" ++ key ++ "\"") key ↔ IsVerbatim key)) ∧
    ∀ m ∈ d.schemaModels,
      Occurs ("\n  " ++ m.tableName ++ ": Schema.Schema.Encoded<typeof _" ++ m.name ++ ">;\n")
        (d.package time).types ∧
      (A.DenotesName m.tableName (m.toSchema d.registry).table ↔ A.IsName m.tableName) := by
  refine ⟨fun e he => ⟨occurs_enumConstant he time, ?_⟩, fun _ _ => exists_enum_of_registered,
    fun m hm f hf key hkey => ⟨?_, ?_, ?_⟩, fun m hm => ⟨occurs_table hm time, ?_⟩⟩
  · exact fun v _ => TypeScript.denotesLiteral_quoted_iff v.stored
  · obtain ⟨inner, htext⟩ := Field.exists_text_eq_of_storageName
      (Model.isColumn_of_mem_schemaFields hf) hkey d.registry
    have hline := occurs_field hm hf time
    rw [htext] at hline
    refine ⟨inner, .of_eq ?_ hline⟩
    rw [show ": Schema.propertySignature(" = ": " ++ "Schema.propertySignature(" from rfl]
    simp only [String.append_assoc]
  · rw [Field.storedKey_toProperty (Model.isColumn_of_mem_schemaFields hf), Field.columnKey, hkey]
    rfl
  · exact TypeScript.denotesLiteral_quoted_iff key
  · exact A.denotesName_self_iff m.tableName

/-- A size in inches. -/
def size : Enum :=
  ⟨"Size", [⟨"PIPE_5", some "5\" pipe"⟩]⟩

/-- A price whose column is named with a backslash. -/
def netPrice : Field :=
  ⟨"net", some "net\\price", .scalar, false, true, false, false, "Float", none, none, none⟩

/-- Prices, in a table that is named with a hyphen. -/
def price : Model :=
  ⟨"Price", some "price-list", [netPrice]⟩

/-- A data model of sizes and prices. -/
def catalogue : Datamodel :=
  ⟨[size], [price]⟩

theorem price_mem_schemaModels : price ∈ catalogue.schemaModels :=
  (sortByName_perm _ _).mem_iff.mpr (by decide)

theorem netPrice_mem_schemaFields : netPrice ∈ price.schemaFields :=
  (sortByName_perm _ _).mem_iff.mpr (by decide)

theorem emitted_names_denote_iff_catalogue :
    (Occurs ("\nexport const Size = Schema.Literal("
        ++ String.intercalate ", " (size.values.map literalArgument) ++ ");")
        (catalogue.package ⟨0, 0⟩).enums ∧
      ∀ v ∈ size.values, DenotesLiteral (literalArgument v) v.stored ↔ IsVerbatim v.stored) ∧
    (∃ e ∈ catalogue.enums,
      e.name = "Size" ∧ ["5\" pipe"] = e.values.map EnumValue.stored) ∧
    ((∃ inner, Occurs ("\n  net: Schema.propertySignature(" ++ inner
        ++ ").pipe(Schema.fromKey(" ++ ("\"" ++ "net\\price" ++ "\"") ++ "))")
        (catalogue.package ⟨0, 0⟩).types) ∧
      (netPrice.toProperty catalogue.registry).storedKey = "net\\price" ∧
      (DenotesLiteral ("\"" ++ "net\\price" ++ "\"") "net\\price" ↔ IsVerbatim "net\\price")) ∧
    Occurs "\n  price-list: Schema.Schema.Encoded<typeof _Price>;\n"
      (catalogue.package ⟨0, 0⟩).types ∧
    (Alphabet.permissive.DenotesName "price-list" "price-list" ↔
      Alphabet.permissive.IsName "price-list") := by
  obtain ⟨hvalues, hregistered, hkeys, htables⟩ :=
    emitted_names_denote_iff Alphabet.permissive catalogue ⟨0, 0⟩
  exact ⟨hvalues size (List.mem_singleton_self _), hregistered "Size" _ rfl,
    hkeys price price_mem_schemaModels netPrice netPrice_mem_schemaFields "net\\price" rfl,
    htables price price_mem_schemaModels⟩

/-- The value would end early, the key means another column, and the table has no name. -/
theorem emitted_names_of_catalogue :
    (Dict.get? catalogue.registry "Size" = some ["5\" pipe"] ∧
      Occurs "\nexport const Size = Schema.Literal(\"5\" pipe\");"
        (catalogue.package ⟨0, 0⟩).enums ∧
      ¬ DenotesLiteral "\"5\" pipe\"" "5\" pipe") ∧
    ((netPrice.toProperty catalogue.registry).storedKey = "net\\price" ∧
      Occurs
        "\n  net: Schema.propertySignature(Schema.Number).pipe(Schema.fromKey(\"net\\price\"))"
        (catalogue.package ⟨0, 0⟩).types ∧
      DenotesLiteral "\"net\\price\"" "netprice" ∧
      ¬ DenotesLiteral "\"net\\price\"" "net\\price") ∧
    (price.toSchema catalogue.registry).table = "price-list" ∧
    Occurs "\n  price-list: Schema.Schema.Encoded<typeof _Price>;\n"
      (catalogue.package ⟨0, 0⟩).types ∧
    ¬ Alphabet.permissive.DenotesName "price-list" "price-list" := by
  refine ⟨⟨rfl, ?_, ?_⟩, ⟨rfl, ?_, ?_, ?_⟩, rfl, occurs_table price_mem_schemaModels ⟨0, 0⟩, ?_⟩
  · exact occurs_enumConstant (e := size) (List.mem_singleton_self _) ⟨0, 0⟩
  · rw [show "\"5\" pipe\"" = "\"" ++ "5\" pipe" ++ "\"" from rfl,
      TypeScript.denotesLiteral_quoted_iff]
    decide
  · exact occurs_field price_mem_schemaModels netPrice_mem_schemaFields ⟨0, 0⟩
  · refine ⟨"net\\price".toList, rfl, ?_⟩
    have hnet : IsVerbatim "net" := by decide
    have hrice : IsVerbatim "rice" := by decide
    have hp : TypeScript.Escape ['p'] (TypeScript.codeUnits 'p'.toNat) :=
      .itself (by decide) rfl (by decide) (by decide)
    exact TypeScript.body_append hnet (.escaped hp (TypeScript.body_units hrice))
  · rw [show "\"net\\price\"" = "\"" ++ "net\\price" ++ "\"" from rfl,
      TypeScript.denotesLiteral_quoted_iff]
    decide
  · rw [Alphabet.denotesName_self_iff]
    exact Alphabet.not_isName_of_mem (c := '-') (by decide) (by decide) rfl

end RowSchema.Datamodel
