import RowSchema.Proofs.Schema.Parse
import RowSchema.Proofs.Schema.UnionMembers
import RowSchema.Schema.View

/-!
# The laws of the views

A view is made of a record in three steps. Every column is replaced by its side, the properties
whose type is then `never` are dropped, and what is left is finished: on insertion a property may be
left out if its type admits that, on a change any may, and its type gets `undefined`. The first two
steps choose properties, the last one treats each on its own. A law of views is therefore a law
about single properties, together with the fact that a view has no columns any more.

That fact needs a condition on the record. Only one column is replaced, so a side of a column must
not be a column again; otherwise a view can have a view that is different from it.

## Columns while parsing

A record may also be parsed without making a view of it. Parsing then enters the selected side of
each column by itself, and so does the test whether a `null` is left out. The results are those of
the view that is read, whatever is nested, because the two go through the same schemas. The one
difference is that the view has dropped the properties of type `never`, which the record still
demands.

## Main definitions

* `Schema.finished`, `Schema.viewProperties` — the properties of a view, step by step
* `Schema.HasFlatColumns` — no side of a column is a column

## Main results

* `Schema.names_viewProperties` — which properties a view has
* `Schema.viewProperties_eq_self_iff` — which records are their own view
* `Schema.viewed_laws` — views of views, and records that are their own view
* `Schema.parse_selectable` — a record is parsed like its view that is read
-/

namespace RowSchema.Schema

variable {d : Direction} {s : Schema} {p q : Property Schema} {ps : List (Property Schema)}
  {fields : Dict Json} {v w : View}

/-! ### The properties of a view -/

/-- What a view makes of a property that has its side already. -/
def finished (v : View) (p : Property Schema) : Property Schema :=
  match v with
  | .select => p
  | .insert => { p with optional := p.optional || p.schema.admitsAbsence }
  | .update => { p with schema := p.schema.orUndefined, optional := true }

/-- The properties of a view of a record. -/
def viewProperties (v : View) (ps : List (Property Schema)) : List (Property Schema) :=
  (projected v ps).map (finished v)

theorem viewed_struct (v : View) (ps : List (Property Schema)) :
    (Schema.struct ps).viewed v = .struct (viewProperties v ps) := by
  cases v with
  | select =>
    show Schema.struct (projected .select ps) = .struct ((projected .select ps).map fun p => p)
    rw [List.map_id']
  | insert => rfl
  | update => rfl

theorem name_finished (v : View) (p : Property Schema) : (finished v p).name = p.name := by
  cases v <;> rfl

theorem key_finished (v : View) (p : Property Schema) : (finished v p).key = p.key := by
  cases v <;> rfl

theorem storedKey_finished (v : View) (p : Property Schema) :
    (finished v p).storedKey = p.storedKey := by
  cases v <;> rfl

theorem mem_projected_iff :
    q ∈ projected v ps ↔
      ∃ p ∈ ps, p.schema.side v ≠ .never ∧ { p with schema := p.schema.side v } = q := by
  rw [projected, List.mem_filter, List.mem_map, Bool.not_eq_true', isNever_eq_false_iff]
  constructor
  · rintro ⟨⟨p, hp, rfl⟩, hnever⟩
    exact ⟨p, hp, hnever, rfl⟩
  · rintro ⟨p, hp, hnever, rfl⟩
    exact ⟨⟨p, hp, rfl⟩, hnever⟩

/-- The keys of a view are keys of the record. -/
theorem storedKeys_viewProperties_sublist (v : View) (ps : List (Property Schema)) :
    ((viewProperties v ps).map Property.storedKey).Sublist (ps.map Property.storedKey) := by
  have hprojected : ((projected v ps).map Property.storedKey).Sublist
      ((ps.map fun p => { p with schema := p.schema.side v }).map Property.storedKey) :=
    List.filter_sublist.map _
  rw [List.map_map] at hprojected
  have hfinished : Property.storedKey ∘ finished v = Property.storedKey :=
    funext (storedKey_finished v)
  rw [viewProperties, List.map_map, hfinished]
  exact hprojected

/-- A property of a view comes from a property of the record that takes part in it. -/
theorem exists_mem_of_mem_viewProperties (h : q ∈ viewProperties v ps) :
    ∃ p ∈ ps, q.name = p.name ∧ q.storedKey = p.storedKey ∧ p.schema.side v ≠ .never := by
  obtain ⟨q, hq, rfl⟩ := List.mem_map.mp h
  obtain ⟨p, hp, hnever, rfl⟩ := mem_projected_iff.mp hq
  exact ⟨p, hp, name_finished v _, storedKey_finished v _, hnever⟩

/-- The properties that are not dropped are replaced and finished one by one. -/
theorem viewProperties_eq (v : View) (ps : List (Property Schema)) :
    viewProperties v ps = (ps.filter fun p => p.schema.side v ≠ .never).map fun p =>
      finished v { p with schema := p.schema.side v } := by
  have hkept : (fun p : Property Schema => decide (p.schema.side v ≠ .never)) =
      fun p => !(p.schema.side v).isNever := by
    funext p
    rw [Bool.eq_iff_iff]
    simp
  rw [viewProperties, projected, List.filter_map, List.map_map, hkept]
  rfl

/-- A view has the properties whose type for it is not `never`, in their order and under their names
and keys. -/
theorem names_viewProperties (v : View) (ps : List (Property Schema)) :
    (viewProperties v ps).map (fun q => (q.name, q.key)) =
      (ps.filter fun p => p.schema.side v ≠ .never).map fun p => (p.name, p.key) := by
  rw [viewProperties_eq, List.map_map]
  refine List.map_congr_left fun p _ => ?_
  rw [Function.comp_apply, name_finished, key_finished]

/-! ### Records that are their own view -/

/-- A view changes nothing if it drops no property and changes none. -/
theorem viewProperties_eq_self_iff :
    viewProperties v ps = ps ↔ ∀ p ∈ ps, p.schema.side v ≠ .never ∧
      finished v { p with schema := p.schema.side v } = p := by
  rw [viewProperties_eq]
  constructor
  · intro h
    -- Nothing is dropped, because nothing is added and the length is the same.
    have hkept : ∀ p ∈ ps, decide (p.schema.side v ≠ .never) = true := by
      rw [← List.length_filter_eq_length_iff]
      simpa using congrArg List.length h
    rw [List.filter_eq_self.mpr hkept] at h
    have hself := List.map_inj_left.mp (h.trans (List.map_id ps).symm)
    exact fun p hp => ⟨of_decide_eq_true (hkept p hp), hself p hp⟩
  · intro h
    have hkept : (ps.filter fun p => p.schema.side v ≠ .never) = ps :=
      List.filter_eq_self.mpr fun p hp => decide_eq_true (h p hp).1
    rw [hkept]
    exact (List.map_congr_left fun p hp => (h p hp).2).trans (List.map_id ps)

/-- Only a column is replaced by another schema. -/
theorem side_eq_self_iff : s.side v = s ↔ s.isColumn = false := by
  cases s with
  | column select insert update =>
    refine ⟨fun h => ?_, nofun⟩
    -- A side is a smaller tree than the column.
    have hsize := congrArg sizeOf h
    cases v <;> simp [side] at hsize <;> omega
  | _ => exact ⟨fun _ => rfl, fun _ => rfl⟩

theorem admitsAbsence_eq_false_iff :
    s.admitsAbsence = false ↔
      ∀ members, s = .union members → .undefined ∉ members ∧ .atom .null ∉ members := by
  cases s with
  | union members =>
    rw [admitsAbsence, List.any_eq_false]
    constructor
    · rintro h _ ⟨⟩
      exact ⟨fun hm => by simpa using h _ hm, fun hm => by simpa using h _ hm⟩
    · intro h m hm
      obtain ⟨hundefined, hnull⟩ := h members rfl
      simp [ne_of_mem_of_not_mem hm hundefined, ne_of_mem_of_not_mem hm hnull]
  | _ => exact ⟨fun _ => nofun, fun _ => rfl⟩

/-- A record is what is read of it if it has no columns and nothing to drop. -/
theorem selectable_eq_self_iff :
    (Schema.struct ps).selectable = .struct ps ↔
      ∀ p ∈ ps, p.schema.isColumn = false ∧ p.schema ≠ .never := by
  have hview : (Schema.struct ps).selectable = .struct (viewProperties .select ps) :=
    viewed_struct .select ps
  rw [hview, Schema.struct.injEq, viewProperties_eq_self_iff]
  refine forall₂_congr fun p _ => ?_
  constructor
  · rintro ⟨hnever, hself⟩
    have hside : p.schema.side .select = p.schema := congrArg Property.schema hself
    exact ⟨side_eq_self_iff.mp hside, hside ▸ hnever⟩
  · rintro ⟨hcolumn, hnever⟩
    rw [side_eq_self_iff.mpr hcolumn]
    exact ⟨hnever, rfl⟩

/-- A record is what is inserted into it if, besides, every property is optional that can be
absent. -/
theorem insertable_eq_self_iff :
    (Schema.struct ps).insertable = .struct ps ↔
      ∀ p ∈ ps, (p.schema.isColumn = false ∧ p.schema ≠ .never) ∧
        (p.optional = false → p.schema.admitsAbsence = false) := by
  have hview : (Schema.struct ps).insertable = .struct (viewProperties .insert ps) :=
    viewed_struct .insert ps
  rw [hview, Schema.struct.injEq, viewProperties_eq_self_iff]
  refine forall₂_congr fun p _ => ?_
  constructor
  · rintro ⟨hnever, hself⟩
    have hside : p.schema.side .insert = p.schema := congrArg Property.schema hself
    have hoptional : (p.optional || (p.schema.side .insert).admitsAbsence) = p.optional :=
      congrArg Property.optional hself
    rw [hside] at hnever hoptional
    refine ⟨⟨side_eq_self_iff.mp hside, hnever⟩, fun hrequired => ?_⟩
    rwa [hrequired, Bool.false_or] at hoptional
  · rintro ⟨⟨hcolumn, hnever⟩, habsent⟩
    rw [side_eq_self_iff.mpr hcolumn]
    refine ⟨hnever, ?_⟩
    have hoptional : (p.optional || p.schema.admitsAbsence) = p.optional := by
      cases hp : p.optional with
      | true => rfl
      | false => exact habsent hp
    rw [finished, hoptional]

/-! ### Views of views -/

/-- No side of a column is a column again. -/
def HasFlatColumns (ps : List (Property Schema)) : Prop :=
  ∀ p ∈ ps, ∀ v, (p.schema.side v).isColumn = false

/-- In a view there are no columns, and nothing is left to drop. -/
theorem HasFlatColumns.of_mem_viewProperties (h : HasFlatColumns ps)
    (hmem : q ∈ viewProperties v ps) : q.schema ≠ .never ∧ q.schema.isColumn = false := by
  obtain ⟨q, hq, rfl⟩ := List.mem_map.mp hmem
  obtain ⟨p, hp, hnever, rfl⟩ := mem_projected_iff.mp hq
  cases v with
  | select => exact ⟨hnever, h p hp .select⟩
  | insert => exact ⟨hnever, h p hp .insert⟩
  | update => exact ⟨orUndefined_ne_never _, isColumn_orUndefined _⟩

/-- A second view changes nothing if it changes no finished property. -/
theorem HasFlatColumns.viewed_viewed (h : HasFlatColumns ps)
    (hfinished : ∀ p : Property Schema, finished w (finished v p) = finished v p) :
    ((Schema.struct ps).viewed v).viewed w = (Schema.struct ps).viewed v := by
  rw [viewed_struct, viewed_struct]
  refine congrArg Schema.struct (viewProperties_eq_self_iff.mpr fun q hq => ?_)
  obtain ⟨hnever, hcolumn⟩ := h.of_mem_viewProperties hq
  rw [side_eq_self_iff.mpr hcolumn]
  obtain ⟨p, -, rfl⟩ := List.mem_map.mp hq
  exact ⟨hnever, hfinished p⟩

theorem finished_finished (v : View) (p : Property Schema) :
    finished v (finished v p) = finished v p := by
  cases v with
  | select => rfl
  | insert => simp only [finished, Bool.or_assoc, Bool.or_self]
  | update => simp only [finished, orUndefined_orUndefined]

/-- **The laws of the views.** A view has the properties whose type for it is not `never`, in their
order and under their names and keys, and no columns. What is read of a view is the view itself; a
second insertion or change makes nothing new of it, nor does an insertion of what may be changed. A
record is its own view for reading exactly if it has neither columns nor properties of type `never`,
and for insertion exactly if, besides, no required property is a union with `undefined` or
`null`. -/
theorem viewed_laws (hflat : HasFlatColumns ps) :
    (∀ v, ∃ qs, (Schema.struct ps).viewed v = .struct qs ∧
        qs.map (fun q => (q.name, q.key)) =
          (ps.filter fun p => p.schema.side v ≠ .never).map (fun p => (p.name, p.key)) ∧
        ∀ q ∈ qs, q.schema ≠ .never ∧ q.schema.isColumn = false) ∧
      (∀ v, ((Schema.struct ps).viewed v).selectable = (Schema.struct ps).viewed v) ∧
      (Schema.struct ps).insertable.insertable = (Schema.struct ps).insertable ∧
      (Schema.struct ps).updatable.updatable = (Schema.struct ps).updatable ∧
      (Schema.struct ps).updatable.insertable = (Schema.struct ps).updatable ∧
      ((Schema.struct ps).selectable = .struct ps ↔
        ∀ p ∈ ps, p.schema.isColumn = false ∧ p.schema ≠ .never) ∧
      ((Schema.struct ps).insertable = .struct ps ↔
        ∀ p ∈ ps, (p.schema.isColumn = false ∧ p.schema ≠ .never) ∧
          (p.optional = false → ∀ members, p.schema = .union members →
            .undefined ∉ members ∧ .atom .null ∉ members)) := by
  refine ⟨fun v => ⟨viewProperties v ps, viewed_struct v ps, names_viewProperties v ps,
      fun q hq => hflat.of_mem_viewProperties hq⟩, fun v => ?_, ?_, ?_, ?_,
    selectable_eq_self_iff, ?_⟩
  · exact hflat.viewed_viewed (w := .select) fun _ => rfl
  · exact hflat.viewed_viewed (v := .insert) (finished_finished .insert)
  · exact hflat.viewed_viewed (v := .update) (finished_finished .update)
  · exact hflat.viewed_viewed (v := .update) (w := .insert) fun _ => rfl
  · simp only [insertable_eq_self_iff, admitsAbsence_eq_false_iff]

/-- A record with an identifier that the store fills in, a column with a default, and a column that
may hold `null`. -/
def ledger : List (Property Schema) :=
  [⟨"id", none, .column (.atom .uuid) .never .never, false⟩,
   ⟨"made", some "made_at", .generated (.atom .date), false⟩,
   ⟨"note", none, .union [.atom .string, .undefined, .atom .null], false⟩]

theorem hasFlatColumns_ledger : HasFlatColumns ledger := by
  simp only [HasFlatColumns, ledger, List.forall_mem_cons]
  refine ⟨?_, ?_, ?_, nofun⟩ <;> rintro (_ | _ | _) <;> rfl

theorem viewed_laws_ledger :
    HasFlatColumns ledger ∧
      (∀ v, ∃ qs, (Schema.struct ledger).viewed v = .struct qs ∧
        qs.map (fun q => (q.name, q.key)) =
          (ledger.filter fun p => p.schema.side v ≠ .never).map (fun p => (p.name, p.key)) ∧
        ∀ q ∈ qs, q.schema ≠ .never ∧ q.schema.isColumn = false) ∧
      (∀ v, ((Schema.struct ledger).viewed v).selectable = (Schema.struct ledger).viewed v) ∧
      (Schema.struct ledger).insertable.insertable = (Schema.struct ledger).insertable ∧
      (Schema.struct ledger).updatable.updatable = (Schema.struct ledger).updatable ∧
      (Schema.struct ledger).updatable.insertable = (Schema.struct ledger).updatable ∧
      ((Schema.struct ledger).selectable = .struct ledger ↔
        ∀ p ∈ ledger, p.schema.isColumn = false ∧ p.schema ≠ .never) ∧
      ((Schema.struct ledger).insertable = .struct ledger ↔
        ∀ p ∈ ledger, (p.schema.isColumn = false ∧ p.schema ≠ .never) ∧
          (p.optional = false → ∀ members, p.schema = .union members →
            .undefined ∉ members ∧ .atom .null ∉ members)) :=
  ⟨hasFlatColumns_ledger, viewed_laws hasFlatColumns_ledger⟩

/-- Without the condition a view that is read can be read in yet another way. -/
example :
    let inner : Schema := .column (.atom .date) .never .never
    let s : Schema := .struct [.required "a" (.column inner .never .never)]
    s.selectable.selectable ≠ s.selectable := by
  decide

/-! ### Parsing a record with columns -/

theorem omitsNull_side_select (s : Schema) : (s.side .select).omitsNull = s.omitsNull := by
  cases s with
  | column select insert update => simp [side, omitsNull, admits]
  | _ => rfl

theorem parse_side_select (d : Direction) (s : Schema) : (s.side .select).parse d = s.parse d := by
  cases s with
  | column select insert update =>
    funext j
    exact (parse_column d select insert update j).symm
  | _ => rfl

/-- Parsing enters the selected side of a column by itself. -/
theorem readField_side_select (d : Direction) (p : Property Schema) (fields : Dict Json) :
    readField d { p with schema := p.schema.side .select } fields = readField d p fields := by
  rw [readField, readField]
  simp only [omitsNull_side_select, parse_side_select]
  cases d <;> rfl

theorem parseFields_side_select (d : Direction) (ps : List (Property Schema)) (fields : Dict Json) :
    parseFields d (ps.map fun p => { p with schema := p.schema.side .select }) fields =
      parseFields d ps fields := by
  induction ps with
  | nil => rfl
  | cons p rest ih =>
    rw [List.map_cons, parseFields_cons, parseFields_cons, readField_side_select, ih]
    cases d <;> rfl

/-- **A record is parsed like its view that is read**, in both directions and errors included, if
the view drops none of its properties. -/
theorem parse_selectable (h : ∀ p ∈ ps, p.schema.side .select ≠ .never) (d : Direction)
    (fields : Dict Json) :
    (Schema.struct ps).parse d (.object fields) =
      (Schema.struct ps).selectable.parse d (.object fields) := by
  have hkept : projected .select ps =
      ps.map fun p => { p with schema := p.schema.side .select } := by
    refine List.filter_eq_self.mpr fun q hq => ?_
    obtain ⟨p, hp, rfl⟩ := List.mem_map.mp hq
    simpa using h p hp
  rw [selectable, mapProperties, hkept, parse_struct_object, parse_struct_object,
    parseFields_side_select]

/-- A record with a column inside a column and a column inside a union. -/
def layered : List (Property Schema) :=
  [⟨"made", some "made_at", .column (.column (.atom .date) .never .never) .never .never, false⟩,
   ⟨"note", none, .union [.column (.atom .string) .never .never, .undefined], true⟩]

theorem parse_selectable_layered :
    (∀ p ∈ layered, p.schema.side .select ≠ .never) ∧
      ∀ (d : Direction) (fields : Dict Json),
        (Schema.struct layered).parse d (.object fields) =
          (Schema.struct layered).selectable.parse d (.object fields) := by
  have hkept : ∀ p ∈ layered, p.schema.side .select ≠ .never := by decide
  exact ⟨hkept, parse_selectable hkept⟩

/-- A required property that has no values is missing from a record, and not from the view. -/
example :
    let s : Schema := .struct [.required "a" .never]
    s.decode (.object []) = .error ⟨[.key "a"], .missing⟩ ∧
      s.selectable.decode (.object []) = .ok (.object []) := by
  decide

end RowSchema.Schema
