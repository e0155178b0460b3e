import RowSchema.Proofs.ModelSchema.ColumnValue

/-!
# Rows written and read

A row is inserted and changed through two of the views of its model and read through the third.
What the two let out, the third takes in: however a row came about, it can be read, and what is
read of it is what was written last.

## Scope

Two columns under one key would overwrite each other, and two properties of one name would hide
each other. `Model.DistinctColumns` excludes both.

An insertion need not give every column. The store then fills in a value of its own, and nothing
is known of it but that the column can be read with it, or that it is `null` where the column may
be without a value. This is `Model.Completes`.

## Main definitions

* `Model.DistinctColumns` — columns differ in their names and in their keys
* `Model.Completes` — a row as the store makes it from the entries of an insertion
* `Model.carried` — the part of a record that an encoder lets out
* `Model.Reaches` — the rows that an insertion and changes after it lead to

## Main results

* `Model.decode_selectable_iff`, `encode_insertable_iff`, `encode_updatable_iff` — the three
  views, value by value
* `Model.decode_selectable_of_writes` — written rows can be read
* `Model.encode_of_decode_selectable` — what was read can be written back
-/

namespace RowSchema.Datamodel

open Schema (Direction parse_struct_eq_ok_iff exists_parse_struct_eq_ok
  exists_object_of_parse_struct)

namespace Model

variable {m : Model} {enums : Registry} {row record entries : Dict Json} {f : Field}

/-- The columns of a model differ in their names and in their keys. -/
structure DistinctColumns (m : Model) : Prop where
  names : (m.schemaFields.map Field.name).Nodup
  keys : (m.schemaFields.map Field.columnKey).Nodup

theorem mem_schemaFields_of_writable (hf : f ∈ m.writableFields) : f ∈ m.schemaFields :=
  (List.mem_filter.mp hf).1

/-- Fields with one key are one field. -/
theorem DistinctColumns.eq_of_columnKey_eq (h : m.DistinctColumns) {g : Field}
    (hf : f ∈ m.schemaFields) (hg : g ∈ m.schemaFields) (heq : f.columnKey = g.columnKey) :
    f = g :=
  List.inj_on_of_nodup_map h.keys hf hg heq

theorem DistinctColumns.keys_writable (h : m.DistinctColumns) :
    (m.writableFields.map Field.columnKey).Nodup :=
  h.keys.sublist ((List.filter_sublist ..).map Field.columnKey)

/-- Among fields with distinct keys, a condition on the field with the key of `f` is one on `f`. -/
theorem any_of_mem {key : Field → String} {fs : List Field} (hkeys : (fs.map key).Nodup)
    (hf : f ∈ fs) (q : Field → Bool) :
    (fs.any fun g => decide (key g = key f) && q g) = q f := by
  rw [Bool.eq_iff_iff, List.any_eq_true]
  constructor
  · rintro ⟨g, hg, hq⟩
    rw [Bool.and_eq_true, decide_eq_true_iff] at hq
    rw [← List.inj_on_of_nodup_map hkeys hg hf hq.1]
    exact hq.2
  · intro hq
    exact ⟨f, hf, by rw [hq, decide_eq_true rfl]; rfl⟩

theorem any_of_not_mem {key : Field → String} {fs : List Field} {k : String}
    (hk : k ∉ fs.map key) (q : Field → Bool) :
    (fs.any fun g => decide (key g = k) && q g) = false := by
  refine List.any_eq_false.mpr fun g hg hq => ?_
  rw [Bool.and_eq_true, decide_eq_true_iff] at hq
  exact hk (hq.1 ▸ List.mem_map_of_mem hg)

/-! ### The views, value by value -/

/-- A view takes objects to objects. -/
theorem exists_object_of_view {s : Schema} {ps : List (Schema.Property Schema)} {d : Direction}
    {v r : Json} (hs : s = .struct ps) (h : s.parse d v = .ok r) :
    ∃ fields out, v = .object fields ∧ r = .object out := by
  subst hs
  exact exists_object_of_parse_struct h

/-- A list of columns is parsed value by value. -/
theorem parse_columns_iff {d : Direction} {fs : List Field} {schema : Field → Schema}
    {absent optional : Field → Bool} {fields out : Dict Json}
    (hschema : ∀ f, schema f = (f.valueSchema enums).orAbsent (absent f))
    (hkeys : (fs.map fun f => d.writeKey (f.property (schema f) (optional f))).Nodup) :
    (Schema.struct (fs.map fun f => f.property (schema f) (optional f))).parse d
        (.object fields) = .ok (.object out) ↔
      out.Ordered ∧
        (∀ f ∈ fs, (f.valueSchema enums).Passes (absent f) (optional f)
          (fields.get? (d.readKey (f.property (schema f) (optional f))))
          (out.get? (d.writeKey (f.property (schema f) (optional f))))) ∧
        ∀ key, key ∉ fs.map (fun f => d.writeKey (f.property (schema f) (optional f))) →
          out.get? key = none := by
  have hwritten : (fs.map fun f => f.property (schema f) (optional f)).map d.writeKey =
      fs.map fun f => d.writeKey (f.property (schema f) (optional f)) := by
    rw [List.map_map]
    rfl
  rw [parse_struct_eq_ok_iff (by rwa [hwritten]), hwritten, List.forall_mem_map]
  refine and_congr_right fun _ => and_congr_left fun _ => forall₂_congr fun f _ => ?_
  exact (Field.isValueType_valueSchema f enums).readField_eq_ok_iff (hschema f)

/-- Reading a row. -/
theorem decode_selectable_iff (h : m.DistinctColumns) :
    (m.selectable enums).decode (.object row) = .ok (.object record) ↔
      record.Ordered ∧
        (∀ f ∈ m.schemaFields, (f.valueSchema enums).Passes f.mayBeAbsent false
          (row.get? f.columnKey) (record.get? f.name)) ∧
        ∀ name, name ∉ m.schemaFields.map Field.name → record.get? name = none := by
  rw [selectable_eq]
  exact parse_columns_iff (fun f => Field.readSchema_eq f enums) h.names

/-- Inserting a record. -/
theorem encode_insertable_iff (h : m.DistinctColumns) :
    (m.insertable enums).encode (.object record) = .ok (.object entries) ↔
      entries.Ordered ∧
        (∀ f ∈ m.writableFields, (f.valueSchema enums).Passes f.mayBeLeftOut f.mayBeLeftOut
          (record.get? f.name) (entries.get? f.columnKey)) ∧
        ∀ key, key ∉ m.writableFields.map Field.columnKey → entries.get? key = none := by
  rw [insertable_eq]
  exact parse_columns_iff (fun f => Field.insertSchema_eq f enums) h.keys_writable

/-- Changing a row. -/
theorem encode_updatable_iff (h : m.DistinctColumns) :
    (m.updatable enums).encode (.object record) = .ok (.object entries) ↔
      entries.Ordered ∧
        (∀ f ∈ m.writableFields, (f.valueSchema enums).Passes true true
          (record.get? f.name) (entries.get? f.columnKey)) ∧
        ∀ key, key ∉ m.writableFields.map Field.columnKey → entries.get? key = none := by
  rw [updatable_eq]
  exact parse_columns_iff (fun f => Field.updateSchema_eq f enums) h.keys_writable

/-! ### What an encoder lets out -/

/-- The entries that an encoder lets out: each is a value of its column, and was given under the
name of the column. -/
structure Writes (m : Model) (enums : Registry) (record entries : Dict Json) : Prop where
  ordered : entries.Ordered
  value : ∀ f ∈ m.schemaFields, ∀ j, entries.get? f.columnKey = some j →
    record.get? f.name = some j ∧ (f.valueSchema enums).decode j = .ok j

theorem writes_of_passes (h : m.DistinctColumns) {absent optional : Field → Bool}
    (hordered : entries.Ordered)
    (hcolumn : ∀ f ∈ m.writableFields, (f.valueSchema enums).Passes (absent f) (optional f)
      (record.get? f.name) (entries.get? f.columnKey))
    (hother : ∀ key, key ∉ m.writableFields.map Field.columnKey → entries.get? key = none) :
    m.Writes enums record entries := by
  refine ⟨hordered, fun f hf j hj => ?_⟩
  have hkey : f.columnKey ∈ m.writableFields.map Field.columnKey := by
    by_contra hnot
    rw [hother _ hnot] at hj
    cases hj
  obtain ⟨g, hg, heq⟩ := List.mem_map.mp hkey
  obtain rfl := h.eq_of_columnKey_eq (mem_schemaFields_of_writable hg) hf heq
  have hpasses := hcolumn g hg
  rw [hj] at hpasses
  exact hpasses.of_some

theorem writes_of_insert (h : m.DistinctColumns)
    (he : (m.insertable enums).encode (.object record) = .ok (.object entries)) :
    m.Writes enums record entries := by
  obtain ⟨hordered, hcolumn, hother⟩ := (encode_insertable_iff h).mp he
  exact writes_of_passes h hordered hcolumn hother

theorem writes_of_update (h : m.DistinctColumns)
    (he : (m.updatable enums).encode (.object record) = .ok (.object entries)) :
    m.Writes enums record entries := by
  obtain ⟨hordered, hcolumn, hother⟩ := (encode_updatable_iff h).mp he
  exact writes_of_passes h hordered hcolumn hother

/-- Whether the property called `name` is let out. -/
def carries (m : Model) (entries : Dict Json) (name : String) : Bool :=
  m.schemaFields.any fun f => decide (f.name = name) && (entries.get? f.columnKey).isSome

/-- The part of a record that an encoder lets out, with the names and values it has there. -/
def carried (m : Model) (record entries : Dict Json) : Dict Json :=
  record.filter fun entry => m.carries entries entry.1

theorem ordered_carried (hrecord : record.Ordered) (entries : Dict Json) :
    (m.carried record entries).Ordered :=
  Dict.ordered_filter (q := fun name _ => m.carries entries name) hrecord

theorem get?_carried (hrecord : record.Ordered) (entries : Dict Json) (name : String) :
    (m.carried record entries).get? name =
      (record.get? name).filter fun _ => m.carries entries name :=
  Dict.get?_filter (q := fun name _ => m.carries entries name) hrecord.nodup_keys name

/-- Under the name of a column the carried part has what is written under its key. -/
theorem get?_carried_name (h : m.DistinctColumns) (hrecord : record.Ordered)
    (hwrites : m.Writes enums record entries) (hf : f ∈ m.schemaFields) :
    (m.carried record entries).get? f.name = entries.get? f.columnKey := by
  rw [get?_carried hrecord, carries, any_of_mem h.names hf]
  cases hj : entries.get? f.columnKey with
  | some j =>
    rw [(hwrites.value f hf j hj).1]
    rfl
  | none => cases record.get? f.name <;> rfl

theorem get?_carried_of_not_mem (hrecord : record.Ordered) (entries : Dict Json) {name : String}
    (hname : name ∉ m.schemaFields.map Field.name) :
    (m.carried record entries).get? name = none := by
  rw [get?_carried hrecord, carries, any_of_not_mem hname]
  cases record.get? name <;> rfl

/-! ### Rows that can be read -/

/-- A row as the store makes it from the entries of an insertion. It has all of them, and under
the key of every other column a value with which the column can be read, or `null` if the column
may be without a value. -/
structure Completes (m : Model) (enums : Registry) (entries row : Dict Json) : Prop where
  written : ∀ key j, entries.get? key = some j → row.get? key = some j
  filled : ∀ f ∈ m.schemaFields, entries.get? f.columnKey = none →
    (f.mayBeAbsent = true ∧ row.get? f.columnKey = some .null) ∨
      ∃ j r, row.get? f.columnKey = some j ∧ (f.readSchema enums).decode j = .ok r

variable {given change : Dict Json} {log : List (Dict Json)}

/-- What is inserted can be read. -/
theorem exists_decode_of_completes (hwrites : m.Writes enums given entries)
    (hrow : m.Completes enums entries row) :
    ∃ record, (m.selectable enums).decode (.object row) = .ok (.object record) := by
  have hcolumn : ∀ f ∈ m.schemaFields, ∃ passed,
      (f.valueSchema enums).Passes f.mayBeAbsent false (row.get? f.columnKey) passed := by
    intro f hf
    have hvalue := Field.isValueType_valueSchema f enums
    cases hj : entries.get? f.columnKey with
    | some j =>
      rw [hrow.written _ _ hj]
      exact ⟨some j, .value (hwrites.value f hf j hj).2⟩
    | none =>
      rcases hrow.filled f hf hj with ⟨habsent, hnull⟩ | ⟨j, r, hfilled, hr⟩
      · rw [hnull, habsent]
        exact Schema.passes_null hvalue false
      · rw [hfilled]
        exact hvalue.exists_passes_of_decode (by rwa [Field.readSchema_eq] at hr) false
  rw [selectable_eq, Schema.decode]
  refine exists_parse_struct_eq_ok fun p hp => ?_
  obtain ⟨f, hf, rfl⟩ := List.mem_map.mp hp
  obtain ⟨passed, hpassed⟩ := hcolumn f hf
  have hvalue := Field.isValueType_valueSchema f enums
  exact ⟨passed, (hvalue.readField_eq_ok_iff (Field.readSchema_eq f enums)).mpr hpassed⟩

/-- What is inserted is what is read. -/
theorem get?_of_completes (h : m.DistinctColumns) (hgiven : given.Ordered)
    (hwrites : m.Writes enums given entries) (hrow : m.Completes enums entries row)
    (hd : (m.selectable enums).decode (.object row) = .ok (.object record)) {name : String}
    {j : Json} (hj : (m.carried given entries).get? name = some j) : record.get? name = some j := by
  obtain ⟨-, hcolumn, -⟩ := (decode_selectable_iff h).mp hd
  by_cases hname : name ∈ m.schemaFields.map Field.name
  · obtain ⟨f, hf, rfl⟩ := List.mem_map.mp hname
    rw [get?_carried_name h hgiven hwrites hf] at hj
    have hpasses := hcolumn f hf
    rw [hrow.written _ _ hj] at hpasses
    exact hpasses.eq_some (Field.isValueType_valueSchema f enums) (hwrites.value f hf j hj).2
  · rw [get?_carried_of_not_mem hgiven entries hname] at hj
    cases hj

/-- **The step.** A row that can be read still can after a change, and what is read of it changes
by what was let out. -/
theorem decode_selectable_overwrite (h : m.DistinctColumns)
    (hd : (m.selectable enums).decode (.object row) = .ok (.object record))
    (hchange : change.Ordered) (hwrites : m.Writes enums change entries) :
    (m.selectable enums).decode (.object (row.overwrite entries)) =
      .ok (.object (record.overwrite (m.carried change entries))) := by
  have hcarried : (m.carried change entries).keys.Nodup :=
    (ordered_carried hchange entries).nodup_keys
  obtain ⟨hordered, hcolumn, hother⟩ := (decode_selectable_iff h).mp hd
  refine (decode_selectable_iff h).mpr
    ⟨Dict.ordered_overwrite hordered _, fun f hf => ?_, fun name hname => ?_⟩
  · rw [Dict.get?_overwrite hwrites.ordered.nodup_keys, Dict.get?_overwrite hcarried,
      get?_carried_name h hchange hwrites hf]
    cases hj : entries.get? f.columnKey with
    | some j => exact .value (hwrites.value f hf j hj).2
    | none => exact hcolumn f hf
  · rw [Dict.get?_overwrite hcarried, get?_carried_of_not_mem hchange entries hname,
      hother name hname]
    rfl

/-! ### Runs -/

/-- The rows that an insertion and changes after it lead to, with a log of what the encoders let
out, newest first. -/
inductive Reaches (m : Model) (enums : Registry) : Dict Json → List (Dict Json) → Prop where
  | insert {given entries row : Dict Json} (hgiven : (Json.object given).IsValue)
      (hencode : (m.insertable enums).encode (.object given) = .ok (.object entries))
      (hrow : m.Completes enums entries row) : Reaches m enums row [m.carried given entries]
  | update {row change entries : Dict Json} {log : List (Dict Json)} (h : Reaches m enums row log)
      (hchange : (Json.object change).IsValue)
      (hencode : (m.updatable enums).encode (.object change) = .ok (.object entries)) :
      Reaches m enums (row.overwrite entries) (m.carried change entries :: log)

/-- The value that was written last under a name. -/
def lastWritten (log : List (Dict Json)) (name : String) : Option Json :=
  log.findSome? fun written => written.get? name

/-- **The run.** Every row that is reached can be read, and holds what was written last. -/
theorem exists_decode_of_reaches (h : m.DistinctColumns) (hrun : m.Reaches enums row log) :
    ∃ record : Dict Json, (m.selectable enums).decode (.object row) = .ok (.object record) ∧
      ∀ name j, lastWritten log name = some j → record.get? name = some j := by
  induction hrun with
  | @insert given entries row hgiven hencode hrow =>
    have hwrites := writes_of_insert h hencode
    obtain ⟨record, hd⟩ := exists_decode_of_completes hwrites hrow
    refine ⟨record, hd, fun name j hj => ?_⟩
    rw [lastWritten, List.findSome?_singleton] at hj
    exact get?_of_completes h hgiven.1 hwrites hrow hd hj
  | @update row change entries log _ hchange hencode ih =>
    obtain ⟨record, hd, hlast⟩ := ih
    refine ⟨Dict.overwrite record (m.carried change entries),
      decode_selectable_overwrite h hd hchange.1 (writes_of_update h hencode), fun name j hj => ?_⟩
    rw [lastWritten, List.findSome?_cons] at hj
    rw [Dict.get?_overwrite (ordered_carried hchange.1 entries).nodup_keys]
    cases hnew : (m.carried change entries).get? name with
    | some j' => simpa [hnew] using hj
    | none =>
      rw [hnew] at hj
      rw [Option.none_or]
      exact hlast name j hj

/-! ### A model with columns of each sort -/

/-- A text column that has to be given. -/
def textColumn (name : String) : Field :=
  ⟨name, none, .scalar, false, true, false, false, "String", none, none, none⟩

/-- A model with a column of each sort, two of them stored under each other's name. -/
def accounts : Model where
  name := "Account"
  dbName := none
  fields :=
    [{ textColumn "active" with typeName := "Boolean", hasDefaultValue := true },
     { textColumn "extra" with typeName := "Json", isRequired := false },
     { textColumn "id" with typeName := "Int", isId := true, hasDefaultValue := true },
     { textColumn "name" with dbName := some "role", isRequired := false },
     { textColumn "role" with dbName := some "name", kind := .enum, typeName := "Role" },
     { textColumn "tags" with isList := true }]

/-- The enums of `accounts`. -/
def roles : Registry := [("Role", ["admin", "guest"])]

theorem schemaFields_accounts : accounts.schemaFields = accounts.fields := by
  rw [schemaFields, sortByName, List.mergeSort_of_pairwise] <;> decide

theorem distinctColumns_accounts : accounts.DistinctColumns := by
  constructor <;> rw [schemaFields_accounts] <;> decide

/-- A record to be inserted. -/
def newAccount : Dict Json :=
  [("extra", .null), ("role", .string "admin"), ("tags", .array [.string "a"])]

/-- The entries of `newAccount`. -/
def newEntries : Dict Json :=
  [("extra", .null), ("name", .string "admin"), ("tags", .array [.string "a"])]

/-- The row that the store makes from `newEntries`. -/
def accountRow : Dict Json :=
  [("active", .bool true), ("extra", .null), ("id", .int 1), ("name", .string "admin"),
   ("role", .null), ("tags", .array [.string "a"])]

/-- A change to a row, with a `null` that changes nothing. -/
def nameChange : Dict Json :=
  [("name", .string "Ann"), ("tags", .null)]

/-- The entries of `nameChange`. -/
def nameEntries : Dict Json := [("role", .string "Ann")]

theorem completes_accountRow : accounts.Completes roles newEntries accountRow where
  written := by
    intro key j hj
    have hmem := Dict.mem_of_get?_eq_some hj
    simp only [newEntries, List.mem_cons, List.not_mem_nil, or_false, Prod.mk.injEq] at hmem
    rcases hmem with ⟨rfl, rfl⟩ | ⟨rfl, rfl⟩ | ⟨rfl, rfl⟩ <;> rfl
  filled := by
    rw [schemaFields_accounts]
    simp only [accounts, List.forall_mem_cons]
    refine ⟨fun _ => Or.inr ⟨.bool true, .bool true, ?_, ?_⟩, fun hnone => absurd hnone ?_,
      fun _ => Or.inr ⟨.int 1, .int 1, ?_, ?_⟩, fun _ => Or.inl ⟨?_, ?_⟩,
      fun hnone => absurd hnone ?_, fun hnone => absurd hnone ?_, fun f hf => nomatch hf⟩
    all_goals decide

theorem reaches_nameChange : accounts.Reaches roles (accountRow.overwrite nameEntries)
    [accounts.carried nameChange nameEntries, accounts.carried newAccount newEntries] := by
  have hnew : accounts.Reaches roles accountRow [accounts.carried newAccount newEntries] := by
    refine .insert ?_ ?_ completes_accountRow
    · decide
    · rw [insertable_eq, writableFields, schemaFields_accounts]
      decide
  refine .update hnew ?_ ?_
  · decide
  · rw [updatable_eq, writableFields, schemaFields_accounts]
    decide

/-! ### Reading what was written -/

/-- **Writes keep rows readable.** What was let out by an insertion can be read, with whatever the
store fills in. What was let out by a change changes what is read, and nothing else. Therefore
every row that an insertion and changes lead to can be read, and holds what was written last. -/
theorem decode_selectable_of_writes (h : m.DistinctColumns) (enums : Registry) :
    (∀ v e, (m.insertable enums).encode v = .ok e → ∃ entries : Dict Json, e = .object entries ∧
        ∀ row, m.Completes enums entries row → ∃ record : Dict Json,
          (m.selectable enums).decode (.object row) = .ok (.object record)) ∧
      (∀ r d p e, (m.selectable enums).decode r = .ok d → p.IsValue →
        (m.updatable enums).encode p = .ok e → ∃ row record change entries : Dict Json,
          r = .object row ∧ d = .object record ∧ p = .object change ∧ e = .object entries ∧
            (m.selectable enums).decode (.object (row.overwrite entries)) =
              .ok (.object (record.overwrite (m.carried change entries)))) ∧
      ∀ row log, m.Reaches enums row log → ∃ record : Dict Json,
        (m.selectable enums).decode (.object row) = .ok (.object record) ∧
          ∀ name j, lastWritten log name = some j → record.get? name = some j := by
  refine ⟨fun v e he => ?_, fun r d p e hd hp he => ?_, fun row log hrun => ?_⟩
  · obtain ⟨given, entries, rfl, rfl⟩ := exists_object_of_view (insertable_eq m enums) he
    exact ⟨entries, rfl, fun row hrow => exists_decode_of_completes (writes_of_insert h he) hrow⟩
  · obtain ⟨row, record, rfl, rfl⟩ := exists_object_of_view (selectable_eq m enums) hd
    obtain ⟨change, entries, rfl, rfl⟩ := exists_object_of_view (updatable_eq m enums) he
    exact ⟨row, record, change, entries, rfl, rfl, rfl, rfl,
      decode_selectable_overwrite h hd hp.1 (writes_of_update h he)⟩
  · exact exists_decode_of_reaches h hrun

theorem decode_selectable_nameChange :
    accounts.DistinctColumns ∧
      accounts.Reaches roles (accountRow.overwrite nameEntries)
        [accounts.carried nameChange nameEntries, accounts.carried newAccount newEntries] ∧
      ∃ record : Dict Json,
        (accounts.selectable roles).decode (.object (accountRow.overwrite nameEntries)) =
          .ok (.object record) ∧
        ∀ name j, lastWritten [accounts.carried nameChange nameEntries,
          accounts.carried newAccount newEntries] name = some j → record.get? name = some j := by
  refine ⟨distinctColumns_accounts, reaches_nameChange, ?_⟩
  exact (decode_selectable_of_writes distinctColumns_accounts roles).2.2 _ _ reaches_nameChange

/-! ### Writing back -/

/-- Whether `j` under the key of a column is written again after it was read: it is if the column
is written at all, unless it is a `null` that says that there is no value. -/
def isWrittenBack (m : Model) (enums : Registry) (key : String) (j : Json) : Bool :=
  m.writableFields.any fun f =>
    decide (f.columnKey = key) && (!j.isNull || decide (f.valueSchema enums = .unknown))

/-- The entries of a row that are written again after it was read. -/
def writtenBack (m : Model) (enums : Registry) (row : Dict Json) : Dict Json :=
  row.filter fun entry => m.isWrittenBack enums entry.1 entry.2

theorem get?_writtenBack (hrow : row.Ordered) (enums : Registry) (key : String) :
    (m.writtenBack enums row).get? key = (row.get? key).filter (m.isWrittenBack enums key) :=
  Dict.get?_filter hrow.nodup_keys key

/-- What is written back under the key of a column is what was read under its name. -/
theorem get?_writtenBack_columnKey (h : m.DistinctColumns) (hrow : row.Ordered)
    (hf : f ∈ m.writableFields) {o : Option Json}
    (hpasses : (f.valueSchema enums).Passes f.mayBeAbsent false (row.get? f.columnKey) o) :
    (m.writtenBack enums row).get? f.columnKey = o := by
  have hback : ∀ j, m.isWrittenBack enums f.columnKey j =
      (!j.isNull || decide (f.valueSchema enums = .unknown)) := fun j =>
    any_of_mem h.keys_writable hf fun g => !j.isNull || decide (g.valueSchema enums = .unknown)
  rw [get?_writtenBack hrow]
  generalize row.get? f.columnKey = stored at hpasses
  cases hpasses with
  | @value j hj =>
    have hkept : (!j.isNull || decide (f.valueSchema enums = .unknown)) = true := by
      cases hnull : j.isNull with
      | false => rfl
      | true =>
        rw [Json.isNull_iff.mp hnull] at hj
        exact decide_eq_true ((Field.isValueType_valueSchema f enums).decode_null_iff.mp hj)
    rw [Option.filter_some, hback, hkept, if_pos rfl]
  | omitted habsent hunknown =>
    have hdropped : (!Json.null.isNull || decide (f.valueSchema enums = .unknown)) = false :=
      decide_eq_false hunknown
    rw [Option.filter_some, hback, hdropped, if_neg Bool.false_ne_true]
  | missing hoptional => cases hoptional

theorem get?_writtenBack_of_not_mem (hrow : row.Ordered) (enums : Registry) {key : String}
    (hkey : key ∉ m.writableFields.map Field.columnKey) :
    (m.writtenBack enums row).get? key = none := by
  have hback : ∀ j, m.isWrittenBack enums key j = false := fun j => any_of_not_mem hkey _
  rw [get?_writtenBack hrow]
  cases row.get? key with
  | none => rfl
  | some j => rw [Option.filter_some, hback, if_neg Bool.false_ne_true]

/-- **What was read can be written back.** Both encoders take a record that was read, and let the
same out: what the row had under the keys of the written columns, without the `null`s that say
that there is no value. -/
theorem encode_of_decode_selectable (h : m.DistinctColumns) {r d : Json} (hr : r.IsValue)
    (hd : (m.selectable enums).decode r = .ok d) :
    ∃ row : Dict Json, r = .object row ∧
      (m.insertable enums).encode d = .ok (.object (m.writtenBack enums row)) ∧
      (m.updatable enums).encode d = .ok (.object (m.writtenBack enums row)) := by
  obtain ⟨row, record, rfl, rfl⟩ := exists_object_of_view (selectable_eq m enums) hd
  have hrow : Dict.Ordered row := hr.1
  obtain ⟨-, hcolumn, -⟩ := (decode_selectable_iff h).mp hd
  have hread : ∀ f ∈ m.writableFields, (f.valueSchema enums).Passes f.mayBeAbsent false
      (Dict.get? row f.columnKey) (Dict.get? record f.name) := fun f hf =>
    hcolumn f (mem_schemaFields_of_writable hf)
  have hback : ∀ f ∈ m.writableFields,
      (m.writtenBack enums row).get? f.columnKey = Dict.get? record f.name := fun f hf =>
    get?_writtenBack_columnKey h hrow hf (hread f hf)
  have hordered : (m.writtenBack enums row).Ordered := Dict.ordered_filter hrow
  have hother : ∀ key, key ∉ m.writableFields.map Field.columnKey →
      (m.writtenBack enums row).get? key = none := fun key hkey =>
    get?_writtenBack_of_not_mem hrow enums hkey
  refine ⟨row, rfl, (encode_insertable_iff h).mpr ⟨hordered, fun f hf => ?_, hother⟩,
    (encode_updatable_iff h).mpr ⟨hordered, fun f hf => ?_, hother⟩⟩
  · rw [hback f hf]
    exact (hread f hf).again f.mayBeLeftOut Field.mayBeLeftOut_of_mayBeAbsent
  · rw [hback f hf]
    exact (hread f hf).again true fun _ => rfl

/-- What is read of `accountRow`. -/
def accountRecord : Dict Json :=
  [("active", .bool true), ("extra", .null), ("id", .int 1), ("role", .string "admin"),
   ("tags", .array [.string "a"])]

theorem encode_accountRecord :
    accounts.DistinctColumns ∧ (Json.object accountRow).IsValue ∧
      (accounts.selectable roles).decode (.object accountRow) = .ok (.object accountRecord) ∧
      ∃ row : Dict Json, Json.object accountRow = .object row ∧
        (accounts.insertable roles).encode (.object accountRecord) =
          .ok (.object (accounts.writtenBack roles row)) ∧
        (accounts.updatable roles).encode (.object accountRecord) =
          .ok (.object (accounts.writtenBack roles row)) := by
  have hvalue : (Json.object accountRow).IsValue := by decide
  have hread : (accounts.selectable roles).decode (.object accountRow) =
      .ok (.object accountRecord) := by
    rw [selectable_eq, schemaFields_accounts]
    decide
  exact ⟨distinctColumns_accounts, hvalue, hread,
    encode_of_decode_selectable distinctColumns_accounts hvalue hread⟩

end Model

end RowSchema.Datamodel
