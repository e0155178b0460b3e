import RowSchema.ModelSchema
import RowSchema.Proofs.Datamodel.Name
import RowSchema.Proofs.Dict
import RowSchema.Proofs.Text.Readable
import RowSchema.TypeScript.Package

/-!
# The order of declaration

The models of a data model and their fields are declared in some order, among models and fields that
get no schema. Neither is seen in what is made of the data model: models and fields come out in name
order, and the rest is passed over.

The models are brought into the arrangement in which they come out: those that get a schema, in name
order, each with the fields that get one, in name order too. The generated module and the schemas
are made of the arrangement, of the enums and of nothing else, and two data models that differ in
the order of declaration only have the same arrangement.

Enums stay in the order of their declaration. That order is seen in the module of the enums and in
the line that imports them, but the registry is a dictionary and does not depend on it.

## Main definitions

* `Datamodel.shown` — the models and fields that get a schema, in the order of declaration
* `Datamodel.Reordered` — the same is shown, in another order
* `Datamodel.arrangement` — the models and fields that get a schema, in name order

## Main results

* `Datamodel.modelSchemas_eq`, `modelModule_eq` — what is made of the arrangement
* `Datamodel.arrangement_eq_of_reordered` — the arrangement does not depend on the order
* `Datamodel.output_eq_of_reordered` — neither do the generated files and the schemas
-/

namespace RowSchema.Datamodel

open TypeScript (databaseInterface enumImport enumModule imports modelDeclaration modelModule
  tableLine)

variable {d d' : Datamodel} {m m' : Model}

/-! ### What is shown -/

/-- The model without the fields that get no schema. -/
def Model.columnsOnly (m : Model) : Model :=
  { m with fields := m.fields.filter Field.isColumn }

/-- The models that get a schema, without the fields that get none. -/
def shown (d : Datamodel) : List Model :=
  (d.models.filter (!·.isInternal)).map Model.columnsOnly

/-- The same model with its fields in another order. -/
structure Model.Reordered (m m' : Model) : Prop where
  name : m.name = m'.name
  dbName : m.dbName = m'.dbName
  fields : m.fields.Perm m'.fields

/-- The same models are shown, in another order and with their fields in another order. -/
def Reordered (d d' : Datamodel) : Prop :=
  ∃ models, List.Forall₂ Model.Reordered d.shown models ∧ models.Perm d'.shown

/-- No two of the models that are shown have one name, nor have two fields of one of them. -/
structure HasDistinctNames (d : Datamodel) : Prop where
  models : (d.shown.map Model.name).Nodup
  fields : ∀ m ∈ d.shown, (m.fields.map Field.name).Nodup

/-! ### The arrangement -/

/-- The model with the fields that get a schema, in name order. -/
def Model.arranged (m : Model) : Model :=
  { m with fields := m.schemaFields }

/-- The models that get a schema, in name order, each with its fields in name order. -/
def arrangement (d : Datamodel) : List Model :=
  d.schemaModels.map Model.arranged

@[simp] theorem Model.name_arranged (m : Model) : m.arranged.name = m.name := rfl

@[simp] theorem Model.tableName_arranged (m : Model) : m.arranged.tableName = m.tableName := rfl

theorem Model.schemaFields_arranged (m : Model) : m.arranged.schemaFields = m.schemaFields := by
  have hcolumns : m.schemaFields.filter Field.isColumn = m.schemaFields :=
    List.filter_eq_self.mpr fun f hf => (List.mem_filter.mp (mem_sortByName.mp hf)).2
  show sortByName Field.name (m.schemaFields.filter Field.isColumn) = m.schemaFields
  rw [hcolumns, schemaFields, sortByName_sortByName]

theorem Model.arranged_columnsOnly (m : Model) : m.columnsOnly.arranged = m.arranged := by
  rw [arranged, arranged, schemaFields, schemaFields, columnsOnly, List.filter_filter]
  simp only [Bool.and_self]

/-- The arrangement is a matter of what is shown. -/
theorem arrangement_eq (d : Datamodel) :
    d.arrangement = sortByName Model.name (d.shown.map Model.arranged) := by
  have hcolumns : Model.arranged ∘ Model.columnsOnly = Model.arranged :=
    funext Model.arranged_columnsOnly
  rw [shown, List.map_map, hcolumns, arrangement, schemaModels,
    map_sortByName Model.arranged Model.name_arranged]

theorem Model.Reordered.arranged_eq (h : m.Reordered m') (hm : (m.fields.map Field.name).Nodup) :
    m.arranged = m'.arranged := by
  have hnames : ((m.fields.filter Field.isColumn).map Field.name).Nodup :=
    (List.filter_sublist.map Field.name).nodup hm
  rw [arranged, arranged, h.name, h.dbName, schemaFields, schemaFields,
    sortByName_eq_of_perm (h.fields.filter _) hnames]

/-- **The arrangement does not depend on the order of declaration.** -/
theorem arrangement_eq_of_reordered (h : d.Reordered d') (hd : d.HasDistinctNames) :
    d.arrangement = d'.arrangement := by
  obtain ⟨models, hmodels, hperm⟩ := h
  have harranged : d.shown.map Model.arranged = models.map Model.arranged := by
    have hfields := hd.fields
    -- The induction is on the two lists, of which only the names of the fields are needed.
    clear hperm hd
    generalize d.shown = shown at hmodels hfields
    induction hmodels with
    | nil => rfl
    | cons hm _ ih =>
      obtain ⟨hfirst, hothers⟩ := List.forall_mem_cons.mp hfields
      rw [List.map_cons, List.map_cons, hm.arranged_eq hfirst, ih hothers]
  have hnames : ((d.shown.map Model.arranged).map Model.name).Nodup := by
    rw [List.map_map]
    exact hd.models
  rw [arrangement_eq, arrangement_eq]
  refine sortByName_eq_of_perm ?_ hnames
  rw [harranged]
  exact hperm.map Model.arranged

/-! ### What is made of the arrangement -/

theorem Model.toSchema_arranged (enums : Registry) (m : Model) :
    m.arranged.toSchema enums = m.toSchema enums := by
  rw [toSchema, schemaFields_arranged]
  rfl

/-- The schemas are made of the arrangement and the registry. -/
theorem modelSchemas_eq (d : Datamodel) :
    d.modelSchemas = d.arrangement.map (·.toSchema d.registry) := by
  rw [arrangement, List.map_map]
  exact List.map_congr_left fun m _ => (m.toSchema_arranged d.registry).symm

theorem modelDeclaration_arranged (enums : Registry) (m : Model) :
    modelDeclaration enums m.arranged = modelDeclaration enums m := by
  unfold modelDeclaration
  rw [Model.schemaFields_arranged, Model.name_arranged]

theorem tableLine_arranged (m : Model) : tableLine m.arranged = tableLine m := by
  unfold tableLine
  rw [Model.tableName_arranged, Model.name_arranged]

/-- The lines that import what every module of models uses. -/
def commonImports : String :=
  "import \x7b Schema \x7d from \"effect\";\n"
    ++ "import \x7b columnType, generated, getSchemas \x7d from \"prisma-effect-kysely\";"

/-- The text behind the imports of a module: the models and the interface of their tables. -/
def declarations (enums : Registry) (models : List Model) : String :=
  "\n\n" ++ String.intercalate "\n\n" (models.map (modelDeclaration enums)) ++ "\n\n"
    ++ databaseInterface models

theorem declarations_arrangement (d : Datamodel) :
    declarations d.registry d.arrangement = declarations d.registry d.schemaModels := by
  have hdeclarations : modelDeclaration d.registry ∘ Model.arranged = modelDeclaration d.registry :=
    funext (modelDeclaration_arranged d.registry)
  have hlines : tableLine ∘ Model.arranged = tableLine := funext tableLine_arranged
  unfold declarations databaseInterface
  rw [arrangement, List.map_map, List.map_map, hdeclarations, hlines]

theorem imports_eq (d : Datamodel) :
    imports d = commonImports ++ String.join ((enumImport d).map ("\n" ++ ·)) := by
  unfold imports commonImports
  rw [List.cons_append, List.cons_append, List.nil_append, Text.intercalate_cons, List.map_cons,
    String.join_cons, ← String.append_assoc]
  rfl

/-- The module of the models: what every module has, the line that imports the enums, and what is
made of the arrangement and the registry. -/
theorem modelModule_eq (header : String) (d : Datamodel) :
    modelModule header d =
      header ++ "\n\n" ++ commonImports ++ String.join ((enumImport d).map ("\n" ++ ·))
        ++ declarations d.registry d.arrangement := by
  rw [declarations_arrangement]
  unfold modelModule declarations
  rw [imports_eq]
  simp only [String.append_assoc]

/-! ### The order of the enums -/

/-- The registry does not depend on the order in which enums are declared. -/
theorem registry_eq_of_perm (h : d.enums.Perm d'.enums) (hnames : (d.enums.map Enum.name).Nodup) :
    d.registry = d'.registry := by
  refine Dict.ofEntries_eq_of_perm (h.map _) ?_
  rw [Dict.keys, List.map_map]
  exact hnames

theorem package_eq_of_arrangement_eq (henums : d.enums = d'.enums)
    (h : d.arrangement = d'.arrangement) (time : Time.Instant) :
    d.package time = d'.package time := by
  have hregistry : d.registry = d'.registry := by rw [registry, registry, henums]
  unfold package
  rw [modelModule_eq, modelModule_eq, h, hregistry]
  unfold enumModule enumImport
  rw [henums]

/-! ### The order of declaration -/

/-- **What comes out does not depend on the order of declaration, nor on what gets no schema.** With
the same enums the generated files and the schemas are the same. If the enums are in another order
too, the schemas are the same, and the module of the models is the same but for the line that
imports the enums. -/
theorem output_eq_of_reordered (h : d.Reordered d') (hd : d.HasDistinctNames) :
    (d.enums = d'.enums →
      (∀ time, d.package time = d'.package time) ∧ d.modelSchemas = d'.modelSchemas) ∧
    (d.enums.Perm d'.enums → (d.enums.map Enum.name).Nodup →
      d.modelSchemas = d'.modelSchemas ∧
      ∀ time, ∃ before after,
        (d.package time).types =
          before ++ String.join ((enumImport d).map ("\n" ++ ·)) ++ after ∧
        (d'.package time).types =
          before ++ String.join ((enumImport d').map ("\n" ++ ·)) ++ after) := by
  have harrangement := arrangement_eq_of_reordered h hd
  refine ⟨fun henums => ⟨package_eq_of_arrangement_eq henums harrangement, ?_⟩,
    fun henums hnames => ?_⟩
  · rw [modelSchemas_eq, modelSchemas_eq, harrangement, registry, registry, henums]
  · have hregistry := registry_eq_of_perm henums hnames
    refine ⟨by rw [modelSchemas_eq, modelSchemas_eq, harrangement, hregistry], fun time => ?_⟩
    refine ⟨TypeScript.header time ++ "\n\n" ++ commonImports,
      declarations d.registry d.arrangement, modelModule_eq _ d, ?_⟩
    rw [harrangement, hregistry]
    exact modelModule_eq _ d'

/-- A field of a household. -/
def householdField (name : String) (kind : FieldKind) (typeName : String) : Field :=
  ⟨name, none, kind, false, true, false, false, typeName, none, none, none⟩

/-- The persons of a household. -/
def person : Model :=
  ⟨"Person", some "persons",
    [householdField "id" .scalar "Int", householdField "Name" .scalar "String"]⟩

/-- The pets of a household. -/
def pet : Model :=
  ⟨"pet", none, [householdField "name" .scalar "String", householdField "kind" .enum "Kind"]⟩

/-- A data model of a household. -/
def household : Datamodel where
  enums := [⟨"Size", [⟨"S", none⟩, ⟨"L", some "large"⟩]⟩, ⟨"Kind", [⟨"Cat", none⟩]⟩]
  models := [person, pet]

/-- The household with models and fields in another order, a relation and the table for it. -/
def householdMoved : Datamodel where
  enums := household.enums
  models :=
    [⟨"_PersonToPet", none, [householdField "A" .scalar "Int"]⟩,
     { pet with fields := householdField "owner" .object "Person" :: pet.fields.reverse },
     { person with fields := person.fields.reverse }]

/-- The same with the enums in another order. -/
def householdTurned : Datamodel :=
  { householdMoved with enums := household.enums.reverse }

theorem reordered_household : household.Reordered householdMoved := by
  have hshown : household.shown = [person, pet] := by decide
  have hmoved : householdMoved.shown =
      [{ pet with fields := pet.fields.reverse },
       { person with fields := person.fields.reverse }] := by decide
  refine ⟨householdMoved.shown.reverse, ?_, List.reverse_perm _⟩
  rw [hshown, hmoved]
  exact .cons ⟨rfl, rfl, (List.reverse_perm _).symm⟩
    (.cons ⟨rfl, rfl, (List.reverse_perm _).symm⟩ .nil)

theorem hasDistinctNames_household : household.HasDistinctNames := by
  constructor <;> decide

theorem output_eq_household :
    (household.Reordered householdMoved ∧ household.HasDistinctNames ∧
      household.enums = householdMoved.enums ∧ household.models ≠ householdMoved.models ∧
      (∀ time, household.package time = householdMoved.package time) ∧
      household.modelSchemas = householdMoved.modelSchemas) ∧
    household.Reordered householdTurned ∧ household.enums.Perm householdTurned.enums ∧
      (household.enums.map Enum.name).Nodup ∧
      enumImport household ≠ enumImport householdTurned ∧
      household.modelSchemas = householdTurned.modelSchemas ∧
      ∀ time, ∃ before after,
        (household.package time).types =
          before ++ String.join ((enumImport household).map ("\n" ++ ·)) ++ after ∧
        (householdTurned.package time).types =
          before ++ String.join ((enumImport householdTurned).map ("\n" ++ ·)) ++ after := by
  have hmoved := output_eq_of_reordered reordered_household hasDistinctNames_household
  have hreordered : household.Reordered householdTurned := reordered_household
  have hturned := output_eq_of_reordered hreordered hasDistinctNames_household
  have hperm : household.enums.Perm householdTurned.enums := (List.reverse_perm _).symm
  have hnames : (household.enums.map Enum.name).Nodup := by decide
  obtain ⟨hpackage, hschemas⟩ := hmoved.1 rfl
  exact ⟨⟨reordered_household, hasDistinctNames_household, rfl, by decide, hpackage, hschemas⟩,
    hreordered, hperm, hnames, by decide, hturned.2 hperm hnames⟩

end RowSchema.Datamodel
