import RowSchema.ModelSchema
import RowSchema.Proofs.Dict
import RowSchema.Proofs.TypeScript.ModelModule
import RowSchema.Schema.View
import RowSchema.TypeScript.Package

/-!
# The generated files determine the schemas

A data model is turned into files and into schemas by two ways that share the type expressions of
the fields and nothing else. They cannot drift apart: if the files of two data models are the same,
then so are their schemas.

The files are read back for this. The module of the enums gives the registry; with the registry
known, the module of the models gives the names, the tables and the type expressions, and these are
all that a schema is made of.

## Scope

Names have to be identifiers, because a file is read back by its punctuation. Stored values and
keys of columns stand in quotes, and any text will do that has no quote in it.

## Main definitions

* `Datamodel.HasPlainNames` — the condition on the names

## Main results

* `Datamodel.Field.isPlain_typeExpr` — expressions of fields can be read back
* `Datamodel.modelSchemas_eq_of_package_eq` — the files determine the schemas
-/

namespace RowSchema.Datamodel

open Text (IsIdentifier)
open TypeScript (IsPlainEnum IsPlainField IsPlainModel IsPlainTable declared tabled registered)

/-- All names are identifiers, and all texts that are written in quotes have none. -/
structure HasPlainNames (d : Datamodel) : Prop where
  enums : ∀ e ∈ d.enums, IsIdentifier e.name
  stored : ∀ e ∈ d.enums, ∀ v ∈ e.values, '"' ∉ v.stored.toList
  models : ∀ m ∈ d.models, IsIdentifier m.name
  tables : ∀ m ∈ d.models, IsIdentifier m.tableName
  fields : ∀ m ∈ d.models, ∀ f ∈ m.fields, IsIdentifier f.name
  columns : ∀ m ∈ d.models, ∀ f ∈ m.fields, '"' ∉ f.columnKey.toList

/-! ### Type expressions of fields -/

/-- The expression of a field can be read back, if the names of the enums and the key of its column
can. -/
theorem Field.isPlain_typeExpr {f : Field} {enums : Registry}
    (henums : ∀ name, (Dict.get? enums name).isSome → IsIdentifier name)
    (hkey : '"' ∉ f.columnKey.toList) : (f.typeExpr enums).IsPlain TypeExpr.isNameChar := by
  have hbase : (f.baseType enums).IsPlain TypeExpr.isNameChar := by
    rw [baseType]
    split
    · trivial
    · split
      · trivial
      · split
        · trivial
        · split
          · rename_i hregistered
            exact fun c hc =>
              TypeExpr.isNameChar_of_isIdentifierChar ((henums _ hregistered).2.1 c hc)
          · trivial
  have hwrapped : (f.wrappedType enums).IsPlain TypeExpr.isNameChar := by
    unfold wrappedType
    cases f.isList <;> cases !f.isRequired && !f.hasDefaultValue <;> exact hbase
  have hvisible : (if (f.resolve enums).isReadOnly then (f.resolve enums).base.readOnly
      else if (f.resolve enums).isGenerated then .generated (f.resolve enums).base
      else (f.resolve enums).base).IsPlain TypeExpr.isNameChar := by
    split
    · exact ⟨hwrapped, trivial, trivial⟩
    · split <;> exact hwrapped
  unfold typeExpr
  cases hstorage : f.storageName with
  | none => exact hvisible
  | some key =>
    rw [columnKey, hstorage] at hkey
    exact ⟨hvisible, hkey⟩

namespace HasPlainNames

variable {d : Datamodel}

theorem isPlainEnum (h : d.HasPlainNames) : ∀ e ∈ d.enums, IsPlainEnum e :=
  fun e he => ⟨h.enums e he, h.stored e he⟩

theorem isIdentifier_of_registered (h : d.HasPlainNames) (name : String)
    (hname : (Dict.get? d.registry name).isSome) : IsIdentifier name := by
  obtain ⟨values, hvalues⟩ := Option.isSome_iff_exists.mp hname
  obtain ⟨e, he, rfl, -⟩ := exists_enum_of_registered hvalues
  exact h.enums e he

theorem isPlainModel (h : d.HasPlainNames) :
    ∀ m ∈ d.schemaModels, IsPlainModel d.registry m ∧ IsPlainTable m := by
  intro m hm
  rw [schemaModels, (sortByName_perm _ _).mem_iff] at hm
  have hmem := (List.mem_filter.mp hm).1
  refine ⟨⟨h.models m hmem, fun f hf => ?_⟩, h.tables m hmem, h.models m hmem⟩
  rw [Model.schemaFields, (sortByName_perm _ _).mem_iff] at hf
  have hfmem := (List.mem_filter.mp hf).1
  exact ⟨h.fields m hmem f hfmem,
    Field.isPlain_typeExpr h.isIdentifier_of_registered (h.columns m hmem f hfmem)⟩

end HasPlainNames

/-! ### Schemas from what was read -/

/-- A schema is made of what the two places in the module tell of a model. -/
theorem Model.toSchema_eq (m : Model) (enums : Registry) :
    m.toSchema enums =
      ⟨(declared enums m).1, (tabled m).1,
        .struct ((declared enums m).2.map fun line => line.2.toProperty enums line.1)⟩ := by
  rw [declared, List.map_map]
  rfl

theorem modelSchemas_eq_of_read {d d' : Datamodel} (hregistry : d.registry = d'.registry)
    (hdeclared : d.schemaModels.map (declared d.registry) =
      d'.schemaModels.map (declared d'.registry))
    (htabled : d.schemaModels.map tabled = d'.schemaModels.map tabled) :
    d.modelSchemas = d'.modelSchemas := by
  have hread : ∀ d : Datamodel, d.modelSchemas =
      ((d.schemaModels.map (declared d.registry)).zip (d.schemaModels.map tabled)).map
        fun read => ⟨read.1.1, read.2.1,
          .struct (read.1.2.map fun line => line.2.toProperty d.registry line.1)⟩ := by
    intro d
    rw [List.zip_map', List.map_map]
    exact List.map_congr_left fun m _ => m.toSchema_eq d.registry
  rw [hread d, hread d', hdeclared, htabled, hregistry]

/-- **The generated files determine the schemas**: names, tables, records and views. -/
theorem modelSchemas_eq_of_package_eq {d d' : Datamodel} (hd : d.HasPlainNames)
    (hd' : d'.HasPlainNames) (time : Time.Instant)
    (henums : (d.package time).enums = (d'.package time).enums)
    (htypes : (d.package time).types = (d'.package time).types) :
    d.modelSchemas = d'.modelSchemas ∧
      ∀ v : View, (d.modelSchemas.map fun m => m.base.viewed v) =
        d'.modelSchemas.map fun m => m.base.viewed v := by
  have hentries := TypeScript.enumModule_inj hd.isPlainEnum hd'.isPlainEnum henums
  have hregistry : d.registry = d'.registry := congrArg Dict.ofEntries hentries
  have hnames : d.enums.map Enum.name = d'.enums.map Enum.name := by
    have hfirst := congrArg (List.map Prod.fst) hentries
    rw [List.map_map, List.map_map] at hfirst
    exact hfirst
  obtain ⟨hdeclared, htabled⟩ :=
    TypeScript.modelModule_inj hregistry hnames hd.isPlainModel hd'.isPlainModel htypes
  have hsame := modelSchemas_eq_of_read hregistry hdeclared htabled
  exact ⟨hsame, fun v => by rw [hsame]⟩

/-- A field of a shop. -/
def shopField (name typeName : String) : Field :=
  ⟨name, none, .scalar, false, true, false, false, typeName, none, none, none⟩

/-- The orders of a shop, one column of which is renamed. -/
def orders : Model where
  name := "Order"
  dbName := some "orders"
  fields :=
    [{ shopField "id" "Int" with isId := true, hasDefaultValue := true },
     { shopField "note" "String" with dbName := some "the note", isRequired := false },
     { shopField "state" "State" with kind := .enum }]

/-- A data model of a shop. -/
def shop : Datamodel where
  enums := [⟨"State", [⟨"OPEN", some "is open"⟩, ⟨"done", none⟩]⟩]
  models := [orders]

/-- The shop with a table that is not meant to be seen, and with a value under another name. -/
def shopWithJoin : Datamodel where
  enums := [⟨"State", [⟨"Open", some "is open"⟩, ⟨"done", none⟩]⟩]
  models := [⟨"_Join", none, []⟩, orders]

theorem schemaModels_shop : shop.schemaModels = [orders] := by
  rw [schemaModels, sortByName, List.mergeSort_of_pairwise] <;> decide

theorem schemaModels_shopWithJoin : shopWithJoin.schemaModels = [orders] := by
  rw [schemaModels, sortByName, List.mergeSort_of_pairwise] <;> decide

theorem hasPlainNames_shop : shop.HasPlainNames := by
  constructor <;> decide

theorem hasPlainNames_shopWithJoin : shopWithJoin.HasPlainNames := by
  constructor <;> decide

theorem modelSchemas_shop :
    shop ≠ shopWithJoin ∧ shop.HasPlainNames ∧ shopWithJoin.HasPlainNames ∧
      (shop.package ⟨0, 0⟩).enums = (shopWithJoin.package ⟨0, 0⟩).enums ∧
      (shop.package ⟨0, 0⟩).types = (shopWithJoin.package ⟨0, 0⟩).types ∧
      shop.modelSchemas = shopWithJoin.modelSchemas ∧
      ∀ v : View, (shop.modelSchemas.map fun m => m.base.viewed v) =
        shopWithJoin.modelSchemas.map fun m => m.base.viewed v := by
  have henums : (shop.package ⟨0, 0⟩).enums = (shopWithJoin.package ⟨0, 0⟩).enums := rfl
  have htypes : (shop.package ⟨0, 0⟩).types = (shopWithJoin.package ⟨0, 0⟩).types := by
    show TypeScript.modelModule _ shop = TypeScript.modelModule _ shopWithJoin
    unfold TypeScript.modelModule
    rw [schemaModels_shop, schemaModels_shopWithJoin]
    rfl
  exact ⟨by decide, hasPlainNames_shop, hasPlainNames_shopWithJoin, henums, htypes,
    modelSchemas_eq_of_package_eq hasPlainNames_shop hasPlainNames_shopWithJoin ⟨0, 0⟩ henums
      htypes⟩

end RowSchema.Datamodel
