import RowSchema.Proofs.Schema.Views

/-!
# What an encoder lets through

Rows are written through a view of their record. What a view writes depends on nothing but the
properties of the view, and it writes under their keys only: a member of the given object that the
view does not know neither reaches the store nor changes the outcome, and a column whose side is
`never` is not touched.

A `null` is written only where the type of the property has a place for it. The reason is that a
`null` is accepted by `undefined`, `null` and `unknown` alone, and that of these `undefined` makes a
record leave the field out unless one of the others stands beside it.

## Main definitions

* `Schema.Offers` — an atom that a schema offers to its values

## Main results

* `Schema.admits_iff`, `omitsNull_iff` — what the recursive tests say of atoms that are offered
* `Schema.exists_offers_of_parse_null` — where a `null` is accepted
* `Schema.parse_struct_congr` — only the keys that are read matter
* `Schema.encode_viewed_safe` — both together for the views of a record
-/

namespace RowSchema.Schema

variable {d : Direction} {s : Schema} {j r : Json} {p q : Property Schema}
  {ps : List (Property Schema)} {fields fields' : Dict Json} {v : View}

/-! ### Atoms that a schema offers -/

/-- The atom is the schema itself, or is offered by a member or by the selected side. Items of
arrays and properties of records offer nothing to the value as a whole. -/
inductive Offers (a : Atom) : Schema → Prop where
  | atom : Offers a (.atom a)
  | member {members : List Schema} {m : Schema} (hm : m ∈ members) (h : Offers a m) :
      Offers a (.union members)
  | select {select insert update : Schema} (h : Offers a select) :
      Offers a (.column select insert update)

theorem anyAdmits_iff {leaf : Atom → Bool} {members : List Schema} :
    anyAdmits leaf members = true ↔ ∃ m ∈ members, m.admits leaf = true := by
  induction members with
  | nil => simp [anyAdmits]
  | cons m rest ih => simp [anyAdmits, ih]

/-- The recursive test finds the atoms that are offered. -/
theorem admits_iff {leaf : Atom → Bool} :
    s.admits leaf = true ↔ ∃ a, leaf a = true ∧ s.Offers a := by
  induction s with
  | atom a =>
    rw [admits]
    refine ⟨fun h => ⟨a, h, .atom⟩, ?_⟩
    rintro ⟨_, h, ⟨⟩⟩
    exact h
  | array item =>
    refine ⟨fun h => by simp [admits] at h, ?_⟩
    rintro ⟨_, _, ⟨⟩⟩
  | union members ih =>
    rw [admits, anyAdmits_iff]
    constructor
    · rintro ⟨m, hm, h⟩
      obtain ⟨a, ha, hoffers⟩ := (ih m hm).mp h
      exact ⟨a, ha, .member hm hoffers⟩
    · rintro ⟨a, ha, ⟨⟩ | ⟨hm, hoffers⟩⟩
      exact ⟨_, hm, (ih _ hm).mpr ⟨a, ha, hoffers⟩⟩
  | struct properties =>
    refine ⟨fun h => by simp [admits] at h, ?_⟩
    rintro ⟨_, _, ⟨⟩⟩
  | column select insert update ih =>
    rw [admits, ih]
    refine exists_congr fun a => and_congr_right fun _ => ⟨.select, ?_⟩
    rintro ⟨⟩
    assumption

theorem omitsNull_iff :
    s.omitsNull = true ↔ s.Offers .undefined ∧ ¬ (s.Offers .null ∨ s.Offers .unknown) := by
  have hundefined : s.admits (decide <| · = .undefined) = true ↔ s.Offers .undefined := by
    simp [admits_iff]
  have hnull : s.admits (fun a => decide (a = .null) || decide (a = .unknown)) = true ↔
      s.Offers .null ∨ s.Offers .unknown := by
    simp [admits_iff, or_and_right, exists_or]
  rw [omitsNull, Bool.and_eq_true, hundefined, Bool.not_eq_true', ← Bool.not_eq_true, hnull]

/-- **Where a `null` is accepted.** -/
theorem exists_offers_of_parse_null (h : s.parse d .null = .ok r) :
    s.Offers .undefined ∨ s.Offers .null ∨ s.Offers .unknown := by
  induction s generalizing r with
  | atom a =>
    obtain ⟨haccepts, -⟩ := parse_atom_eq_ok_iff.mp h
    cases a with
    | undefined => exact Or.inl .atom
    | null => exact Or.inr (Or.inl .atom)
    | unknown => exact Or.inr (Or.inr .atom)
    | _ => simp [Atom.accepts, Json.string?, Json.array?] at haccepts
  | array item =>
    obtain ⟨items, _, hnull, -⟩ := parse_array_eq_ok_iff.mp h
    cases hnull
  | union members ih =>
    obtain ⟨m, hm, hr⟩ := exists_mem_of_parse_union h
    exact (ih m hm hr).imp (.member hm) (Or.imp (.member hm) (.member hm))
  | struct properties =>
    obtain ⟨_, _, hnull, -⟩ := exists_object_of_parse_struct h
    cases hnull
  | column select insert update ih =>
    rw [parse_column] at h
    exact (ih h).imp .select (Or.imp .select .select)

/-- A `null` that a property hands on has a place in its type. -/
theorem offers_of_readField_eq_null (h : readField d p fields = .ok (some .null)) :
    p.schema.Offers .null ∨ p.schema.Offers .unknown := by
  cases hj : fields.get? (d.readKey p) with
  | none =>
    rw [readField_of_absent hj] at h
    split at h <;> cases h
  | some j =>
    by_cases homit : j.isNull ∧ p.schema.omitsNull
    · rw [readField_of_omitted hj homit] at h
      cases h
    · obtain ⟨r, hr, hnull⟩ := (readField_of_present_eq_ok_iff hj homit).mp h
      obtain rfl := Option.some.inj hnull
      have hisNull : j.isNull = true := (isNull_eq_of_parse hr).symm
      rw [Json.isNull_iff.mp hisNull] at hr
      have hkept : ¬ p.schema.omitsNull := fun homits => homit ⟨hisNull, homits⟩
      rw [omitsNull_iff, not_and_not_right] at hkept
      exact (exists_offers_of_parse_null hr).elim hkept id

/-! ### Only the keys that are read matter -/

theorem parseFields_congr
    (h : ∀ p ∈ ps, fields.get? (d.readKey p) = fields'.get? (d.readKey p)) :
    parseFields d ps fields = parseFields d ps fields' := by
  induction ps with
  | nil => rfl
  | cons p rest ih =>
    obtain ⟨hp, hrest⟩ := List.forall_mem_cons.mp h
    have hread : readField d p fields = readField d p fields' := by
      rw [readField, readField, hp]
    rw [parseFields_cons, parseFields_cons, hread, ih hrest]

/-- Objects that agree on the keys of the properties are parsed alike, errors included. -/
theorem parse_struct_congr
    (h : ∀ p ∈ ps, fields.get? (d.readKey p) = fields'.get? (d.readKey p)) :
    parse d (.struct ps) (.object fields) = parse d (.struct ps) (.object fields') := by
  rw [parse_struct_object, parse_struct_object, parseFields_congr h]

/-- An entry of a parsed record was read by the property under whose key it is written. -/
theorem exists_readField_of_get? (hkeys : (ps.map d.writeKey).Nodup) {entries : Dict Json}
    (h : parse d (.struct ps) (.object fields) = .ok (.object entries)) {key : String}
    (hkey : entries.get? key = some r) :
    ∃ p ∈ ps, d.writeKey p = key ∧ readField d p fields = .ok (some r) := by
  obtain ⟨-, hread, hother⟩ := (parse_struct_eq_ok_iff hkeys).mp h
  by_cases hmem : key ∈ ps.map d.writeKey
  · obtain ⟨p, hp, rfl⟩ := List.mem_map.mp hmem
    exact ⟨p, hp, rfl, by rw [hread p hp, hkey]⟩
  · rw [hother key hmem] at hkey
    cases hkey

/-! ### Writing through a view -/

/-- **Writing is safe.** Objects that agree on the names of a view are encoded alike, errors
included. What is written stands under keys of columns that take part in the view, never under
that of another column, and it is `null` only where the type in the view offers `null` or any
value. -/
theorem encode_viewed_safe (hkeys : (ps.map Property.storedKey).Nodup) (v : View) :
    ∃ qs, (Schema.struct ps).viewed v = .struct qs ∧
      (∀ fields fields' : Dict Json,
        (∀ q ∈ qs, fields.get? q.name = fields'.get? q.name) →
          ((Schema.struct ps).viewed v).encode (.object fields) =
            ((Schema.struct ps).viewed v).encode (.object fields')) ∧
      ∀ j e, ((Schema.struct ps).viewed v).encode j = .ok e →
        ∃ entries : Dict Json, e = .object entries ∧
          (∀ key r, Dict.get? entries key = some r →
            ∃ p ∈ ps, ∃ q ∈ qs, q.name = p.name ∧ p.storedKey = key ∧ q.storedKey = key ∧
              p.schema.side v ≠ .never ∧
              (r = .null → q.schema.Offers .null ∨ q.schema.Offers .unknown)) ∧
          ∀ p ∈ ps, p.schema.side v = .never → Dict.get? entries p.storedKey = none := by
  have hview : ((viewProperties v ps).map Direction.encode.writeKey).Nodup :=
    (storedKeys_viewProperties_sublist v ps).nodup hkeys
  rw [viewed_struct]
  refine ⟨viewProperties v ps, rfl, fun fields fields' h => parse_struct_congr h, fun j e h => ?_⟩
  obtain ⟨fields, entries, rfl, rfl⟩ := exists_object_of_parse_struct h
  have hwritten : ∀ key r, Dict.get? entries key = some r →
      ∃ q ∈ viewProperties v ps, q.storedKey = key ∧ readField .encode q fields = .ok (some r) :=
    fun key r hkey => exists_readField_of_get? hview h hkey
  refine ⟨entries, rfl, fun key r hkey => ?_, fun p hp hnever => ?_⟩
  · obtain ⟨q, hq, rfl, hread⟩ := hwritten key r hkey
    obtain ⟨p, hp, hname, hsame, hpart⟩ := exists_mem_of_mem_viewProperties hq
    refine ⟨p, hp, q, hq, hname, hsame.symm, rfl, hpart, ?_⟩
    rintro rfl
    exact offers_of_readField_eq_null hread
  · -- A written key belongs to a column that takes part, and no two columns share a key.
    rw [← Option.not_isSome_iff_eq_none, Option.isSome_iff_exists]
    rintro ⟨r, hkey⟩
    obtain ⟨q, hq, hsame, -⟩ := hwritten _ r hkey
    obtain ⟨p', hp', -, hsame', hpart⟩ := exists_mem_of_mem_viewProperties hq
    obtain rfl := List.inj_on_of_nodup_map hkeys hp' hp (hsame'.symm.trans hsame)
    exact hpart hnever

theorem encode_viewed_safe_ledger :
    (ledger.map Property.storedKey).Nodup ∧
      ∃ qs, (Schema.struct ledger).viewed .insert = .struct qs ∧
        (∀ fields fields' : Dict Json,
          (∀ q ∈ qs, fields.get? q.name = fields'.get? q.name) →
            ((Schema.struct ledger).viewed .insert).encode (.object fields) =
              ((Schema.struct ledger).viewed .insert).encode (.object fields')) ∧
        ∀ j e, ((Schema.struct ledger).viewed .insert).encode j = .ok e →
          ∃ entries : Dict Json, e = .object entries ∧
            (∀ key r, Dict.get? entries key = some r →
              ∃ p ∈ ledger, ∃ q ∈ qs, q.name = p.name ∧ p.storedKey = key ∧ q.storedKey = key ∧
                p.schema.side .insert ≠ .never ∧
                (r = .null → q.schema.Offers .null ∨ q.schema.Offers .unknown)) ∧
            ∀ p ∈ ledger, p.schema.side .insert = .never →
              Dict.get? entries p.storedKey = none := by
  have hkeys : (ledger.map Property.storedKey).Nodup := by decide
  exact ⟨hkeys, encode_viewed_safe hkeys .insert⟩

/-- The identifier is dropped, the `null` is kept, and a `null` for the default is left out. -/
example :
    (Schema.struct ledger).insertable.encode
        (.object [("id", .int 1), ("made", .null), ("note", .null)]) =
      .ok (.object [("note", .null)]) := by
  decide

end RowSchema.Schema
