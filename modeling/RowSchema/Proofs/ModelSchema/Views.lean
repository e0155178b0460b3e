import RowSchema.Proofs.ModelSchema.ColumnType

/-!
# The views of a model

The record of a model has one property for each column. Its three views are lists of the same
columns: all of them when a row is read, and those that are not filled in by the store as
identifiers when a row is inserted or changed.

## Main definitions

* `Datamodel.Model.selectable`, `insertable`, `updatable` — the views of the record of a model
* `Datamodel.Model.writableFields` — the columns that are inserted and changed

## Main results

* `Datamodel.Model.selectable_eq`, `insertable_eq`, `updatable_eq` — each view, property by property
* `Datamodel.Model.views_eq` — the three together

## Implementation notes

Whether a property may be left out on insertion is recovered by the view from the shape of its
type. That this agrees with the field, `Field.mayBeLeftOut`, is the one step in `insertable_eq`
that is not a computation with lists.
-/

namespace RowSchema.Datamodel

namespace Field

variable {f : Field} {enums : Registry}

/-! ### The sides of a column -/

theorem side_readSchema (f : Field) (enums : Registry) (v : View) :
    (f.readSchema enums).side v = f.readSchema enums := by
  rw [readSchema]
  split
  · rfl
  · exact (isValueType_valueSchema f enums).side_eq v

theorem readSchema_ne_never (f : Field) (enums : Registry) : f.readSchema enums ≠ .never := by
  rw [readSchema]
  split
  · simp
  · exact (isValueType_valueSchema f enums).ne_never

theorem insertSchema_ne_never (f : Field) (enums : Registry) : f.insertSchema enums ≠ .never := by
  rw [insertSchema]
  split
  · simp
  · exact readSchema_ne_never f enums

theorem side_select_columnSchema (f : Field) (enums : Registry) :
    (f.columnSchema enums).side .select = f.readSchema enums := by
  rw [columnSchema]
  split
  · rfl
  · split
    · rfl
    · exact side_readSchema f enums .select

theorem side_insert_columnSchema (f : Field) (enums : Registry) :
    (f.columnSchema enums).side .insert =
      if f.isReadOnly then .never else f.insertSchema enums := by
  rw [columnSchema]
  split
  · rfl
  · split
    · rfl
    · rename_i hdefault
      rw [insertSchema, if_neg hdefault]
      exact side_readSchema f enums .insert

theorem side_update_columnSchema (f : Field) (enums : Registry) :
    (f.columnSchema enums).side .update =
      if f.isReadOnly then .never else f.readSchema enums := by
  rw [columnSchema]
  split
  · rfl
  · split
    · rfl
    · exact side_readSchema f enums .update

/-! ### What the views recover -/

/-- A column that can be absent on insertion is one with a default or without a requirement. -/
theorem admitsAbsence_insertSchema (f : Field) (enums : Registry) :
    (f.insertSchema enums).admitsAbsence = f.mayBeLeftOut := by
  have hplain := (isValueType_valueSchema f enums).admitsAbsence_eq_false
  rw [insertSchema, readSchema, mayBeAbsent, mayBeLeftOut]
  cases f.hasDefaultValue <;> cases f.isRequired <;>
    first | exact hplain | simp [Schema.admitsAbsence]

theorem orUndefined_readSchema (f : Field) (enums : Registry) :
    (f.readSchema enums).orUndefined = f.updateSchema enums := by
  have hvalue := isValueType_valueSchema f enums
  rw [updateSchema, readSchema]
  cases f.mayBeAbsent with
  | true => exact hvalue.orUndefined_union_eq
  | false => exact hvalue.orUndefined_eq

end Field

namespace Model

variable {m : Model} {enums : Registry}

/-- The fields that are inserted and changed. -/
def writableFields (m : Model) : List Field :=
  m.schemaFields.filter fun f => !f.isReadOnly

/-- The view of rows that are read. -/
def selectable (m : Model) (enums : Registry) : Schema :=
  (m.toSchema enums).base.selectable

/-- The view of rows that are inserted. -/
def insertable (m : Model) (enums : Registry) : Schema :=
  (m.toSchema enums).base.insertable

/-- The view of changes to rows. -/
def updatable (m : Model) (enums : Registry) : Schema :=
  (m.toSchema enums).base.updatable

theorem isColumn_of_mem_schemaFields {f : Field} (h : f ∈ m.schemaFields) : f.isColumn = true := by
  rw [schemaFields, (sortByName_perm _ _).mem_iff] at h
  exact (List.mem_filter.mp h).2

theorem base_toSchema (m : Model) (enums : Registry) :
    (m.toSchema enums).base =
      .struct (m.schemaFields.map fun f => f.property (f.columnSchema enums) false) := by
  show Schema.struct (m.schemaFields.map fun f => f.toProperty enums) = _
  rw [List.map_congr_left fun f hf => Field.toProperty_eq (isColumn_of_mem_schemaFields hf)]

/-- The properties of a view: of all columns, those whose side is not `never`. -/
theorem projected_columns (v : View) (fs : List Field) (enums : Registry) :
    Schema.projected v (fs.map fun f => f.property (f.columnSchema enums) false) =
      (fs.filter fun f => !((f.columnSchema enums).side v).isNever).map fun f =>
        f.property ((f.columnSchema enums).side v) false := by
  rw [Schema.projected, List.map_map, List.filter_map]
  rfl

theorem projected_select (fs : List Field) (enums : Registry) :
    Schema.projected .select (fs.map fun f => f.property (f.columnSchema enums) false) =
      fs.map fun f => f.property (f.readSchema enums) false := by
  rw [projected_columns]
  simp only [Field.side_select_columnSchema]
  congr 1
  refine List.filter_eq_self.mpr fun f _ => ?_
  simpa using Field.readSchema_ne_never f enums

/-- A side that is `never` for the columns that are only read leaves the writable ones. -/
theorem projected_write {v : View} {schema : Field → Schema}
    (hside : ∀ f : Field, (f.columnSchema enums).side v =
      if f.isReadOnly then .never else schema f)
    (hnever : ∀ f, schema f ≠ .never) (fs : List Field) :
    Schema.projected v (fs.map fun f => f.property (f.columnSchema enums) false) =
      (fs.filter fun f => !f.isReadOnly).map fun f => f.property (schema f) false := by
  rw [projected_columns]
  have hfilter : (fs.filter fun f => !((f.columnSchema enums).side v).isNever) =
      fs.filter fun f => !f.isReadOnly := by
    refine List.filter_congr fun f _ => ?_
    rw [hside]
    cases f.isReadOnly with
    | true => rfl
    | false => simpa using hnever f
  rw [hfilter]
  refine List.map_congr_left fun f hf => ?_
  have hwritable : f.isReadOnly = false := by simpa using (List.mem_filter.mp hf).2
  rw [hside, hwritable]
  rfl

/-! ### The three views -/

theorem selectable_eq (m : Model) (enums : Registry) :
    m.selectable enums =
      .struct (m.schemaFields.map fun f => f.property (f.readSchema enums) false) := by
  rw [selectable, base_toSchema, Schema.selectable, Schema.mapProperties, projected_select]

theorem insertable_eq (m : Model) (enums : Registry) :
    m.insertable enums =
      .struct (m.writableFields.map fun f =>
        f.property (f.insertSchema enums) f.mayBeLeftOut) := by
  have hprojected := projected_write (fun f => Field.side_insert_columnSchema f enums)
    (fun f => Field.insertSchema_ne_never f enums) m.schemaFields
  rw [insertable, base_toSchema, Schema.insertable, Schema.mapProperties, hprojected, List.map_map]
  congr 1
  refine List.map_congr_left fun f _ => ?_
  show f.property (f.insertSchema enums) (false || (f.insertSchema enums).admitsAbsence) = _
  rw [Bool.false_or, Field.admitsAbsence_insertSchema]

theorem updatable_eq (m : Model) (enums : Registry) :
    m.updatable enums =
      .struct (m.writableFields.map fun f => f.property (f.updateSchema enums) true) := by
  have hprojected := projected_write (fun f => Field.side_update_columnSchema f enums)
    (fun f => Field.readSchema_ne_never f enums) m.schemaFields
  rw [updatable, base_toSchema, Schema.updatable, Schema.mapProperties, hprojected, List.map_map]
  congr 1
  refine List.map_congr_left fun f _ => ?_
  show f.property (f.readSchema enums).orUndefined true = _
  rw [Field.orUndefined_readSchema]

/-- **Visibility of columns.** A row is read with every column, each of which is required. It is
inserted and changed without the columns that the store fills in as identifiers. On insertion a
column may be left out if it has a default or is not required, on a change every column may. -/
theorem views_eq (m : Model) (enums : Registry) :
    (m.toSchema enums).base.selectable =
        .struct (m.schemaFields.map fun f => f.property (f.readSchema enums) false) ∧
      (m.toSchema enums).base.insertable =
        .struct ((m.schemaFields.filter fun f => !(f.isId && f.hasDefaultValue)).map fun f =>
          f.property (f.insertSchema enums) (f.hasDefaultValue || !f.isRequired)) ∧
      (m.toSchema enums).base.updatable =
        .struct ((m.schemaFields.filter fun f => !(f.isId && f.hasDefaultValue)).map fun f =>
          f.property (f.updateSchema enums) true) :=
  ⟨selectable_eq m enums, insertable_eq m enums, updatable_eq m enums⟩

end Model

end RowSchema.Datamodel
