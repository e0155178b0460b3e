import RowSchema.Proofs.ModelSchema.Views
import RowSchema.Proofs.TypeScript.Package
import RowSchema.Proofs.TypeScript.Places

/-!
# References to enums

A type expression refers to an enum by its name. The name is looked up in three places: in the
module of the enums, through the line that imports them, and in the registry when the expression
becomes a schema. All three are filled from the enums of the data model, but each in its own way,
and an expression only ever holds names that the registry has. So no reference dangles.

## Several enums of one name

The module declares each of them, and the registry keeps the last. The values that a schema has are
those of *some* declared enum of that name, whatever the names are; that there is only one is all
that distinct names are needed for.

## Main definitions

* `TypeExpr.enumNames` — the enums that an expression refers to
* `Schema.HasAtom` — the leaves of a schema, at any depth

## Main results

* `TypeExpr.occurs_of_mem_enumNames` — references stand in the text
* `Datamodel.Field.mem_enumNames_typeExpr_iff` — the references of a field
* `Datamodel.Field.hasAtom_columnSchema_iff` — the leaves of a column
* `Datamodel.enum_references_resolve` — every reference is imported, exported and has its values
-/

namespace RowSchema

open Datamodel (Registry)

/-! ### Names in expressions -/

/-- The enums that an expression refers to. -/
def TypeExpr.enumNames : TypeExpr → List String
  | .scalar _ => []
  | .enum name => [name]
  | .array item => item.enumNames
  | .undefinedOr inner => inner.enumNames
  | .column select insert update => select.enumNames ++ insert.enumNames ++ update.enumNames
  | .generated inner => inner.enumNames
  | .fromKey inner _ => inner.enumNames

/-- A reference stands in the text of the expression. -/
theorem TypeExpr.occurs_of_mem_enumNames {e : TypeExpr} {name : String} (h : name ∈ e.enumNames) :
    Text.Occurs name e.text := by
  have hwithin : ∀ {inner before after : String}, Text.Occurs name inner →
      Text.Occurs name (before ++ inner ++ after) := fun h => h.trans ⟨_, _, rfl⟩
  induction e with
  | scalar s => cases h
  | enum other =>
    obtain rfl := List.mem_singleton.mp h
    exact .refl _
  | array item ih => exact hwithin (ih h)
  | undefinedOr inner ih => exact hwithin (ih h)
  | column select insert update ihSelect ihInsert ihUpdate =>
    rw [text_column]
    rw [enumNames, List.mem_append, List.mem_append] at h
    rcases h with (h | h) | h
    · refine (ihSelect h).trans
        ⟨"columnType(", ", " ++ insert.text ++ ", " ++ update.text ++ ")", ?_⟩
      simp only [String.append_assoc]
    · refine (ihInsert h).trans
        ⟨"columnType(" ++ select.text ++ ", ", ", " ++ update.text ++ ")", ?_⟩
      simp only [String.append_assoc]
    · exact hwithin (ihUpdate h)
  | generated inner ih => exact hwithin (ih h)
  | fromKey inner key ih =>
    rw [text_fromKey]
    refine (ih h).trans ⟨"Schema.propertySignature(",
      ").pipe(Schema.fromKey(\"" ++ key ++ "\"))", ?_⟩
    simp only [String.append_assoc]

namespace Datamodel.Field

variable {f : Field} {enums : Registry} {name : String}

/-- Lists, absence, visibility and keys do not add or hide a reference. -/
theorem enumNames_typeExpr (f : Field) (enums : Registry) :
    (f.typeExpr enums).enumNames = (f.baseType enums).enumNames := by
  have hwrapped : (f.wrappedType enums).enumNames = (f.baseType enums).enumNames := by
    unfold wrappedType
    cases f.isList <;> cases !f.isRequired && !f.hasDefaultValue <;> rfl
  have hvisible : (if (f.resolve enums).isReadOnly then (f.resolve enums).base.readOnly
      else if (f.resolve enums).isGenerated then .generated (f.resolve enums).base
      else (f.resolve enums).base).enumNames = (f.baseType enums).enumNames := by
    rw [← hwrapped]
    split
    · exact (List.append_nil _).trans (List.append_nil _)
    · split <;> rfl
  rw [← hvisible, typeExpr]
  cases f.storageName <;> rfl

/-- A field refers to the enum of its type, if that is no scalar type and there is such an enum. -/
theorem mem_enumNames_typeExpr_iff :
    name ∈ (f.typeExpr enums).enumNames ↔ f.baseType enums = .enum name := by
  rw [enumNames_typeExpr, baseType]
  split
  · simp [TypeExpr.enumNames]
  · split
    · simp [TypeExpr.enumNames]
    · split
      · simp [TypeExpr.enumNames]
      · split <;> simp [TypeExpr.enumNames, eq_comm]

/-- Only registered enums are referred to. -/
theorem exists_registered_of_mem_enumNames (h : name ∈ (f.typeExpr enums).enumNames) :
    ∃ values, Dict.get? enums name = some values := by
  have hbase := mem_enumNames_typeExpr_iff.mp h
  rw [baseType] at hbase
  split at hbase
  · cases hbase
  · split at hbase
    · cases hbase
    · split at hbase
      · cases hbase
      · split at hbase
        · rename_i hregistered
          cases hbase
          exact Option.isSome_iff_exists.mp hregistered
        · cases hbase

end Datamodel.Field

/-! ### Leaves of schemas -/

/-- The atom stands somewhere in the schema. -/
inductive Schema.HasAtom (a : Schema.Atom) : Schema → Prop where
  | here : HasAtom a (.atom a)
  | item {item : Schema} (h : HasAtom a item) : HasAtom a (.array item)
  | member {members : List Schema} {m : Schema} (hm : m ∈ members) (h : HasAtom a m) :
      HasAtom a (.union members)
  | property {ps : List (Schema.Property Schema)} {p : Schema.Property Schema} (hp : p ∈ ps)
      (h : HasAtom a p.schema) : HasAtom a (.struct ps)
  | select {select insert update : Schema} (h : HasAtom a select) :
      HasAtom a (.column select insert update)
  | insert {select insert update : Schema} (h : HasAtom a insert) :
      HasAtom a (.column select insert update)
  | update {select insert update : Schema} (h : HasAtom a update) :
      HasAtom a (.column select insert update)

namespace Schema

variable {a b : Atom} {s t u : Schema} {members : List Schema}

theorem hasAtom_atom_iff : HasAtom a (.atom b) ↔ a = b :=
  ⟨fun h => by cases h; rfl, fun h => h ▸ .here⟩

theorem hasAtom_array_iff : HasAtom a (.array s) ↔ HasAtom a s :=
  ⟨fun h => by cases h; assumption, .item⟩

theorem hasAtom_pair_iff : HasAtom a (.union [s, t]) ↔ HasAtom a s ∨ HasAtom a t := by
  constructor
  · intro h
    cases h with
    | member hm h =>
      rcases List.mem_pair.mp hm with rfl | rfl
      · exact .inl h
      · exact .inr h
  · rintro (h | h)
    · exact .member (List.mem_cons_self ..) h
    · exact .member (List.mem_cons_of_mem _ (List.mem_singleton_self _)) h

theorem hasAtom_column_iff :
    HasAtom a (.column s t u) ↔ HasAtom a s ∨ HasAtom a t ∨ HasAtom a u := by
  constructor
  · intro h
    cases h with
    | select h => exact .inl h
    | insert h => exact .inr (.inl h)
    | update h => exact .inr (.inr h)
  · rintro (h | h | h)
    · exact .select h
    · exact .insert h
    · exact .update h

end Schema

namespace Datamodel.Field

open Schema (HasAtom hasAtom_array_iff hasAtom_atom_iff hasAtom_column_iff hasAtom_pair_iff)

variable {f : Field} {enums : Registry} {name : String} {a : Schema.Atom}

theorem hasAtom_valueSchema_iff :
    HasAtom a (f.valueSchema enums) ↔ HasAtom a (f.itemSchema enums) := by
  rw [valueSchema]
  split
  · exact hasAtom_array_iff
  · exact Iff.rfl

theorem hasAtom_readSchema_iff :
    HasAtom a (f.readSchema enums) ↔
      HasAtom a (f.itemSchema enums) ∨ f.mayBeAbsent = true ∧ a = .undefined := by
  rw [readSchema]
  split
  · rename_i habsent
    rw [hasAtom_pair_iff, hasAtom_valueSchema_iff, hasAtom_atom_iff]
    simp [habsent]
  · rename_i hpresent
    rw [hasAtom_valueSchema_iff]
    simp [hpresent]

/-- **The leaves of a column**: that of its values, `undefined` where it may be left out, and
`never` where it is only read. -/
theorem hasAtom_columnSchema_iff :
    HasAtom a (f.columnSchema enums) ↔
      HasAtom a (f.itemSchema enums) ∨
        f.mayBeLeftOut = true ∧ f.isReadOnly = false ∧ a = .undefined ∨
        f.isReadOnly = true ∧ a = .never := by
  by_cases hdefault : f.hasDefaultValue = true
  · have hread : HasAtom a (f.readSchema enums) ↔ HasAtom a (f.itemSchema enums) := by
      rw [readSchema_of_hasDefaultValue hdefault, hasAtom_valueSchema_iff]
    have hleftOut : f.mayBeLeftOut = true := by rw [mayBeLeftOut, hdefault, Bool.true_or]
    rw [columnSchema]
    split
    · rename_i hreadOnly
      rw [hasAtom_column_iff, hread, hasAtom_atom_iff]
      simp [hreadOnly]
    · rename_i hwritable
      rw [hasAtom_column_iff, insertSchema, if_pos hdefault, hasAtom_pair_iff, hread,
        hasAtom_atom_iff]
      simp [hwritable, hleftOut, or_comm, or_left_comm]
  · have hwritable : f.isReadOnly = false := by simp [isReadOnly, hdefault]
    have hleftOut : f.mayBeLeftOut = f.mayBeAbsent := by
      simp [mayBeLeftOut, mayBeAbsent, hdefault]
    rw [columnSchema, hwritable, if_neg Bool.false_ne_true, if_neg hdefault,
      hasAtom_readSchema_iff, hleftOut]
    simp

/-- The values of a column that refers to an enum are those that the registry has. -/
theorem itemSchema_of_mem_enumNames (hcolumn : f.isColumn = true)
    (h : name ∈ (f.typeExpr enums).enumNames) :
    f.itemSchema enums = (TypeExpr.enum name).toSchema enums := by
  rw [← toSchema_baseType hcolumn, mem_enumNames_typeExpr_iff.mp h]

/-- A required field that is no list is read by the type of its values. -/
theorem decode_columnSchema (hlist : f.isList = false) (hrequired : f.isRequired = true)
    (j : Json) : (f.columnSchema enums).decode j = (f.itemSchema enums).decode j := by
  have hread : f.readSchema enums = f.itemSchema enums := by
    simp [readSchema, mayBeAbsent, valueSchema, hlist, hrequired]
  rw [← hread, columnSchema]
  split
  · exact Schema.parse_column ..
  · split
    · exact Schema.parse_column ..
    · rfl

end Datamodel.Field

/-- A set of values accepts the strings that are in it. -/
theorem Schema.decode_literal_string_iff {values : List String} {s : String} {r : Json} :
    (Schema.literal values).decode (.string s) = .ok r ↔ r = .string s ∧ s ∈ values := by
  rw [decode, parse_atom_eq_ok_iff]
  simp [Atom.accepts, Json.string?, and_comm, eq_comm]

/-! ### References in the generated files -/

namespace Datamodel

open Schema (HasAtom)
open Text (Occurs)
open TypeScript (literalArgument)

variable {d : Datamodel} {m : Model} {f : Field} {name : String}

/-- **References resolve.** An enum that stands in the expression of a field is imported beside it,
declared and exported. The schema of the field has its values, in the order in which they are
exported, and nothing is unknown in it. -/
theorem enum_references_resolve (hm : m ∈ d.schemaModels) (hf : f ∈ m.schemaFields)
    (hname : name ∈ (f.typeExpr d.registry).enumNames) (time : Time.Instant) :
    (∃ before after,
      Occurs ("\n  " ++ f.name ++ ": " ++ before ++ name ++ after) (d.package time).types) ∧
    (∃ names, name ∈ names ∧
      Occurs ("\nimport \x7b " ++ String.intercalate ", " names ++ " \x7d from \"./enums\";\n")
        (d.package time).types) ∧
    ∃ e ∈ d.enums, e.name = name ∧
      ((d.enums.map Enum.name).Nodup → ∀ e' ∈ d.enums, e'.name = name → e' = e) ∧
      Occurs ("\nexport const " ++ name ++ " = Schema.Literal("
        ++ String.intercalate ", " (e.values.map literalArgument) ++ ");") (d.package time).enums ∧
      (TypeExpr.enum name).toSchema d.registry = .literal (e.values.map EnumValue.stored) ∧
      (∀ a, HasAtom a (f.toProperty d.registry).schema ↔
        a = .literal (e.values.map EnumValue.stored) ∨
          f.mayBeLeftOut = true ∧ f.isReadOnly = false ∧ a = .undefined ∨
          f.isReadOnly = true ∧ a = .never) ∧
      (f.isList = false → f.isRequired = true → ∀ s r,
        (f.toProperty d.registry).schema.decode (.string s) = .ok r ↔
          r = .string s ∧ s ∈ e.values.map EnumValue.stored) := by
  have hcolumn : f.isColumn = true := Model.isColumn_of_mem_schemaFields hf
  obtain ⟨values, hvalues⟩ := Field.exists_registered_of_mem_enumNames hname
  obtain ⟨e, he, rfl, rfl⟩ := exists_enum_of_registered hvalues
  have hleaf : (TypeExpr.enum e.name).toSchema d.registry =
      .literal (e.values.map EnumValue.stored) := by
    rw [TypeExpr.toSchema, hvalues]
  have hitem : f.itemSchema d.registry = .literal (e.values.map EnumValue.stored) :=
    (Field.itemSchema_of_mem_enumNames hcolumn hname).trans hleaf
  have hschema : (f.toProperty d.registry).schema = f.columnSchema d.registry := by
    rw [Field.toProperty_eq hcolumn, Field.property]
  refine ⟨?_, ⟨d.enums.map Enum.name, List.mem_map_of_mem he, ?_⟩, e, he, rfl, ?_,
    occurs_enumConstant he time, hleaf, fun a => ?_, fun hlist hrequired s r => ?_⟩
  · obtain ⟨before, after, htext⟩ := TypeExpr.occurs_of_mem_enumNames hname
    have hline := occurs_field hm hf time
    rw [htext, ← String.append_assoc, ← String.append_assoc] at hline
    exact ⟨before, after, hline⟩
  · exact occurs_enumImport (List.ne_nil_of_mem he) time
  · exact fun hnodup e' he' hsame => List.inj_on_of_nodup_map hnodup he' he hsame
  · rw [hschema, Field.hasAtom_columnSchema_iff, hitem, Schema.hasAtom_atom_iff]
  · rw [hschema, Field.decode_columnSchema hlist hrequired, hitem, Schema.decode_literal_string_iff]

/-- The state of an order. -/
def orderState : Field :=
  { shopField "state" "State" with kind := .enum }

theorem enum_references_resolve_shop :
    orders ∈ shop.schemaModels ∧ orderState ∈ orders.schemaFields ∧
      "State" ∈ (orderState.typeExpr shop.registry).enumNames ∧
      (∃ before after,
        Occurs ("\n  " ++ "state" ++ ": " ++ before ++ "State" ++ after)
          (shop.package ⟨0, 0⟩).types) ∧
      (∃ names, "State" ∈ names ∧
        Occurs ("\nimport \x7b " ++ String.intercalate ", " names ++ " \x7d from \"./enums\";\n")
          (shop.package ⟨0, 0⟩).types) ∧
      ∃ e ∈ shop.enums, e.name = "State" ∧
        (∀ e' ∈ shop.enums, e'.name = "State" → e' = e) ∧
        Occurs ("\nexport const " ++ "State" ++ " = Schema.Literal("
          ++ String.intercalate ", " (e.values.map literalArgument) ++ ");")
          (shop.package ⟨0, 0⟩).enums ∧
        (TypeExpr.enum "State").toSchema shop.registry =
          .literal (e.values.map EnumValue.stored) ∧
        (∀ a, HasAtom a (orderState.toProperty shop.registry).schema ↔
          a = .literal (e.values.map EnumValue.stored) ∨
            orderState.mayBeLeftOut = true ∧ orderState.isReadOnly = false ∧ a = .undefined ∨
            orderState.isReadOnly = true ∧ a = .never) ∧
        ∀ s r, (orderState.toProperty shop.registry).schema.decode (.string s) = .ok r ↔
          r = .string s ∧ s ∈ e.values.map EnumValue.stored := by
  have hm : orders ∈ shop.schemaModels := schemaModels_shop ▸ List.mem_singleton_self _
  have hf : orderState ∈ orders.schemaFields :=
    (sortByName_perm _ _).mem_iff.mpr (by decide)
  have hname : "State" ∈ (orderState.typeExpr shop.registry).enumNames := by decide
  obtain ⟨hplace, himport, e, he, hsame, hunique, hexport, hleaf, hatoms, hdecode⟩ :=
    enum_references_resolve hm hf hname ⟨0, 0⟩
  exact ⟨hm, hf, hname, hplace, himport, e, he, hsame, hunique (by decide), hexport, hleaf, hatoms,
    hdecode rfl rfl⟩

end Datamodel

end RowSchema
