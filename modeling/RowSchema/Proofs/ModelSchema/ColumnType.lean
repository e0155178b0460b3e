import RowSchema.ModelSchema
import RowSchema.Proofs.Schema.Recordless
import RowSchema.Proofs.Schema.UnionMembers

/-!
# The types of columns

A field of a model becomes a column through an expression, a schema with three sides and a view.
This module says directly what comes out: the type of the values, and how `undefined` stands beside
it when the column is read, inserted and changed.

## The shape that decides it

The values of a column are described by a single atom or by an array of one, and that atom is not
`never`, `undefined` or `null`. Every type of a column is such a schema or its union with
`undefined`, so nothing is ever flattened, dropped or collapsed when these unions are built. This
is what `IsValueType` records, and the rest of the theory of models only uses its consequences.

## Main definitions

* `Schema.IsValueType` — the shape
* `Datamodel.Field.itemSchema`, `valueSchema` — the values of a column, without and with the list
* `Datamodel.Field.readSchema`, `insertSchema`, `updateSchema` — the types of a column

## Main results

* `Datamodel.Field.isValueType_valueSchema`
* `Datamodel.Field.toProperty_eq` — the property of a field, columns with all their sides
-/

namespace RowSchema

/-! ### Types of values -/

/-- An atom that is inhabited by other values than `null`, or an array of such atoms. -/
inductive Schema.IsValueType : Schema → Prop where
  | atom (a : Schema.Atom) (hnever : a ≠ .never) (hundefined : a ≠ .undefined)
      (hnull : a ≠ .null) : IsValueType (.atom a)
  | array (a : Schema.Atom) : IsValueType (.array (.atom a))

namespace Schema.IsValueType

variable {s : Schema}

theorem ne_never (h : s.IsValueType) : s ≠ .never := by
  rintro rfl
  cases h with
  | atom a hnever => exact hnever rfl

theorem isUnion_eq_false (h : s.IsValueType) : s.isUnion = false := by
  cases h <;> rfl

theorem ne_undefined (h : s.IsValueType) : s ≠ .undefined := by
  rintro rfl
  cases h with
  | atom a _ hundefined => exact hundefined rfl

theorem side_eq (h : s.IsValueType) (v : View) : s.side v = s := by
  cases h <;> rfl

theorem admitsAbsence_eq_false (h : s.IsValueType) : s.admitsAbsence = false := by
  cases h <;> rfl

theorem holdsRecord_eq_false (h : s.IsValueType) : s.holdsRecord = false := by
  cases h <;> rfl

theorem orUndefined_eq (h : s.IsValueType) : s.orUndefined = .union [s, .undefined] := by
  refine unionOf_eq_union (Nat.le_refl 2) (by simpa using h.ne_undefined) fun m hm => ?_
  rcases List.mem_pair.mp hm with rfl | rfl
  · exact ⟨h.ne_never, h.isUnion_eq_false⟩
  · exact ⟨nofun, rfl⟩

/-- A type that has `undefined` is not changed by giving it `undefined`. -/
theorem orUndefined_union_eq (h : s.IsValueType) :
    (Schema.union [s, .undefined]).orUndefined = .union [s, .undefined] := by
  rw [← h.orUndefined_eq, orUndefined_orUndefined]

theorem omitsNull_eq_false (h : s.IsValueType) : s.omitsNull = false := by
  cases h with
  | atom a _ hundefined => simp [omitsNull, admits, hundefined]
  | array a => rfl

/-- Beside `undefined` a `null` is only kept where every value is. -/
theorem omitsNull_union_eq (h : s.IsValueType) :
    (Schema.union [s, .undefined]).omitsNull = decide (s ≠ .unknown) := by
  cases h with
  | atom a _ _ hnull => simp [omitsNull, admits, anyAdmits, hnull]
  | array a => rfl

/-- `null` is a value of a column only where every value is. -/
theorem decode_null_iff (h : s.IsValueType) : s.decode .null = .ok .null ↔ s = .unknown := by
  cases h with
  | atom a _ hundefined hnull =>
    rw [decode, parse_atom_eq_ok_iff]
    cases a <;> simp_all [Atom.accepts, Json.string?, Json.array?]
  | array a => simp [decode, parse]

end Schema.IsValueType

namespace Datamodel.Field

variable {f : Field} {enums : Registry}

/-! ### The types of a column -/

/-- The type of a single value: a UUID for a text that holds UUIDs, else the scalar type, else the
values of the enum. Nothing is known of any other type. -/
def itemSchema (f : Field) (enums : Registry) : Schema :=
  if f.typeName = "String" ∧ f.isUuid then .atom .uuid
  else
    match TypeExpr.Scalar.ofName? f.typeName with
    | some s => s.toSchema
    | none =>
      match Dict.get? enums f.typeName with
      | some values => .literal values
      | none => .unknown

/-- The type of the values of the column. -/
def valueSchema (f : Field) (enums : Registry) : Schema :=
  if f.isList then .array (f.itemSchema enums) else f.itemSchema enums

/-- Whether a row may have no value in the column: it is not required, and no default stands in. -/
def mayBeAbsent (f : Field) : Bool :=
  !f.isRequired && !f.hasDefaultValue

/-- Whether a row may be inserted without the column. -/
def mayBeLeftOut (f : Field) : Bool :=
  f.hasDefaultValue || !f.isRequired

/-- Whether the column is neither inserted nor changed. -/
def isReadOnly (f : Field) : Bool :=
  f.isId && f.hasDefaultValue

/-- The type of the column when it is read. -/
def readSchema (f : Field) (enums : Registry) : Schema :=
  if f.mayBeAbsent then .union [f.valueSchema enums, .undefined] else f.valueSchema enums

/-- The type of the column when it is inserted. A default stands in for an absent value. -/
def insertSchema (f : Field) (enums : Registry) : Schema :=
  if f.hasDefaultValue then .union [f.readSchema enums, .undefined] else f.readSchema enums

/-- The type of the column when it is changed. -/
def updateSchema (f : Field) (enums : Registry) : Schema :=
  if f.mayBeAbsent then f.readSchema enums else .union [f.readSchema enums, .undefined]

/-- A property under the name and the key of the column. -/
def property (f : Field) (schema : Schema) (optional : Bool) : Schema.Property Schema :=
  ⟨f.name, f.storageName, schema, optional⟩

theorem exists_atom_of_ofName? {name : String} {s : TypeExpr.Scalar}
    (h : TypeExpr.Scalar.ofName? name = some s) :
    ∃ a, s.toSchema = .atom a ∧ a ≠ .never ∧ a ≠ .undefined ∧ a ≠ .null := by
  have hnever : s ≠ .never := by
    rintro rfl
    unfold TypeExpr.Scalar.ofName? at h
    split at h <;> cases h
  cases s with
  | never => exact absurd rfl hnever
  | _ => exact ⟨_, rfl, nofun, nofun, nofun⟩

theorem exists_atom_itemSchema (f : Field) (enums : Registry) :
    ∃ a, f.itemSchema enums = .atom a ∧ a ≠ .never ∧ a ≠ .undefined ∧ a ≠ .null := by
  rw [itemSchema]
  split
  · exact ⟨.uuid, rfl, nofun, nofun, nofun⟩
  · split
    · exact exists_atom_of_ofName? ‹_›
    · split
      · exact ⟨_, rfl, nofun, nofun, nofun⟩
      · exact ⟨.unknown, rfl, nofun, nofun, nofun⟩

theorem isValueType_valueSchema (f : Field) (enums : Registry) :
    (f.valueSchema enums).IsValueType := by
  obtain ⟨a, ha, hnever, hundefined, hnull⟩ := exists_atom_itemSchema f enums
  rw [valueSchema, ha]
  split
  · exact .array a
  · exact .atom a hnever hundefined hnull

theorem mayBeAbsent_eq_false_of_hasDefaultValue (h : f.hasDefaultValue = true) :
    f.mayBeAbsent = false := by
  rw [mayBeAbsent, h, Bool.not_true, Bool.and_false]

/-- A column with a default is read as its plain values. -/
theorem readSchema_of_hasDefaultValue (h : f.hasDefaultValue = true) (enums : Registry) :
    f.readSchema enums = f.valueSchema enums := by
  rw [readSchema, mayBeAbsent_eq_false_of_hasDefaultValue h]
  rfl

/-! ### From the field to the property -/

theorem toSchema_baseType (h : f.isColumn = true) :
    (f.baseType enums).toSchema enums = f.itemSchema enums := by
  have hkind : f.kind ≠ .unsupported := by
    intro hkind
    rw [isColumn, hkind] at h
    cases h
  rw [baseType, if_neg hkind, itemSchema]
  split
  · rfl
  · cases TypeExpr.Scalar.ofName? f.typeName with
    | some s => rfl
    | none =>
      cases henum : Dict.get? enums f.typeName with
      | none => rfl
      | some values => simp [TypeExpr.toSchema, henum]

theorem toSchema_wrappedType (h : f.isColumn = true) :
    (f.wrappedType enums).toSchema enums = f.readSchema enums := by
  have hlisted : (if f.isList then TypeExpr.array (f.baseType enums) else f.baseType enums).toSchema
      enums = f.valueSchema enums := by
    rw [valueSchema]
    split
    · rw [TypeExpr.toSchema, toSchema_baseType h]
    · exact toSchema_baseType h
  rw [wrappedType, readSchema, mayBeAbsent]
  split
  · rw [TypeExpr.toSchema, hlisted, (isValueType_valueSchema f enums).orUndefined_eq]
  · exact hlisted

/-- The schema of a column with all its sides. -/
def columnSchema (f : Field) (enums : Registry) : Schema :=
  if f.isReadOnly then .column (f.readSchema enums) .never .never
  else if f.hasDefaultValue then
    .column (f.readSchema enums) (f.insertSchema enums) (f.readSchema enums)
  else f.readSchema enums

/-- A storage name differs from the name, so it is recorded. -/
theorem ne_name_of_storageName {key : String} (h : f.storageName = some key) : key ≠ f.name := by
  rw [storageName, Option.filter_eq_some_iff] at h
  simpa using h.2

theorem baseType_ne_fromKey (inner : TypeExpr) (key : String) :
    f.baseType enums ≠ .fromKey inner key := by
  rw [baseType]
  split
  · nofun
  · split
    · nofun
    · split
      · nofun
      · split <;> nofun

theorem wrappedType_ne_fromKey (inner : TypeExpr) (key : String) :
    f.wrappedType enums ≠ .fromKey inner key := by
  rw [wrappedType]
  split
  · nofun
  · split
    · nofun
    · exact baseType_ne_fromKey inner key

/-- The expression of a field, split into what decides the schema and what decides the key. -/
theorem exists_typeExpr_eq (h : f.isColumn = true) (enums : Registry) :
    ∃ e : TypeExpr, (∀ inner key, e ≠ .fromKey inner key) ∧
      e.toSchema enums = f.columnSchema enums ∧
      f.typeExpr enums = match f.storageName with
        | some key => .fromKey e key
        | none => e := by
  have hbase : (f.wrappedType enums).toSchema enums = f.readSchema enums := toSchema_wrappedType h
  refine ⟨if f.isReadOnly then (f.wrappedType enums).readOnly
    else if f.hasDefaultValue then .generated (f.wrappedType enums)
    else f.wrappedType enums, ?_, ?_, ?_⟩
  · intro inner key
    split
    · nofun
    · split
      · nofun
      · exact wrappedType_ne_fromKey inner key
  · rw [columnSchema]
    split
    · rw [TypeExpr.readOnly, TypeExpr.toSchema, hbase]
      rfl
    · split
      · rename_i hdefault
        rw [TypeExpr.toSchema, hbase, Schema.generated, insertSchema, if_pos hdefault,
          readSchema_of_hasDefaultValue hdefault, (isValueType_valueSchema f enums).orUndefined_eq]
      · exact hbase
  · rw [typeExpr, resolve, isReadOnly]
    cases f.isId <;> cases f.hasDefaultValue <;> rfl

theorem toProperty_of_ne_fromKey {e : TypeExpr} (h : ∀ inner key, e ≠ .fromKey inner key)
    (name : String) : e.toProperty enums name = .required name (e.toSchema enums) := by
  cases e with
  | fromKey inner key => exact absurd rfl (h inner key)
  | _ => rfl

/-- **The property of a field.** -/
theorem toProperty_eq (h : f.isColumn = true) :
    f.toProperty enums = f.property (f.columnSchema enums) false := by
  obtain ⟨e, hplain, hschema, hexpr⟩ := exists_typeExpr_eq h enums
  rw [toProperty, hexpr, property, ← hschema]
  cases hkey : f.storageName with
  | none => exact toProperty_of_ne_fromKey hplain f.name
  | some key =>
    show (e.toProperty enums f.name).storedAs key = _
    rw [toProperty_of_ne_fromKey hplain, Schema.Property.storedAs, Schema.Property.required,
      if_neg (ne_name_of_storageName hkey)]

end Datamodel.Field

end RowSchema
