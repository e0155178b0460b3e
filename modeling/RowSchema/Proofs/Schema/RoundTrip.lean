import RowSchema.Proofs.Schema.Recordless

/-!
# Parsing there and back

A decoded value can be encoded again, and an encoded one decoded. What comes back is the value one
started from without the parts that no property of a record makes use of: the members under keys
that nothing reads, and every `null` that stands for an absent field.

There is one way in which the second parse can fail. A `null` that stands for an absent field is
left out although the field is required, and the way back then finds the field missing. Nothing
else goes wrong, and this always does.

## Scope

Two conditions on the schema are needed, and both are about the keys. In a record, names must
differ and stored keys must differ, because entries under one key hide each other. In a union,
no alternative may hold a record: the first alternative that accepts a value decides, and once a
record has dropped some of its members an earlier alternative may accept what is left.

## Main definitions

* `Schema.keysDistinct`, `unionsFlat` — the conditions on the schema
* `Schema.pruned` — the part of a value that a parse makes use of
* `Schema.OmitsRequired` — a required field is left out because its value is `null`

## Main results

* `Schema.parse_pruned` — what is pruned away makes no difference to a parse
* `Schema.parse_opposite` — the way back
* `Schema.roundTrip` — both together, with the exact condition for failure

## Implementation notes

The way back is stated for a direction `d` and its opposite, so one induction covers decoding after
encoding as well as encoding after decoding.
-/

namespace RowSchema.Schema

/-- The way back. -/
def Direction.opposite : Direction → Direction
  | .decode => .encode
  | .encode => .decode

@[simp] theorem Direction.readKey_opposite {σ : Type} (d : Direction) (p : Property σ) :
    d.opposite.readKey p = d.writeKey p := by
  cases d <;> rfl

@[simp] theorem Direction.writeKey_opposite {σ : Type} (d : Direction) (p : Property σ) :
    d.opposite.writeKey p = d.readKey p := by
  cases d <;> rfl

/-! ### Conditions on the schema -/

mutual

/-- In every record that is reachable through properties, items and selected sides, the names
differ and the stored keys differ. -/
def keysDistinct : Schema → Bool
  | .atom _ => true
  | .array item => item.keysDistinct
  | .union _ => true
  | .struct properties =>
    decide (properties.map Property.name).Nodup
      && decide (properties.map Property.storedKey).Nodup && allKeysDistinct properties
  | .column select _ _ => select.keysDistinct

/-- The schemas of all properties have distinct keys. -/
def allKeysDistinct : List (Property Schema) → Bool
  | [] => true
  | p :: ps => p.schema.keysDistinct && allKeysDistinct ps

end

mutual

/-- No member of a union holds a record. -/
def unionsFlat : Schema → Bool
  | .atom _ => true
  | .array item => item.unionsFlat
  | .union members => !anyHoldsRecord members
  | .struct properties => allUnionsFlat properties
  | .column select _ _ => select.unionsFlat

/-- In the schemas of all properties no member of a union holds a record. -/
def allUnionsFlat : List (Property Schema) → Bool
  | [] => true
  | p :: ps => p.schema.unionsFlat && allUnionsFlat ps

end

theorem allKeysDistinct_iff {ps : List (Property Schema)} :
    allKeysDistinct ps = true ↔ ∀ p ∈ ps, p.schema.keysDistinct = true := by
  induction ps with
  | nil => simp [allKeysDistinct]
  | cons p rest ih => simp [allKeysDistinct, ih]

theorem allUnionsFlat_iff {ps : List (Property Schema)} :
    allUnionsFlat ps = true ↔ ∀ p ∈ ps, p.schema.unionsFlat = true := by
  induction ps with
  | nil => simp [allUnionsFlat]
  | cons p rest ih => simp [allUnionsFlat, ih]

variable {d : Direction} {s : Schema} {p : Property Schema} {ps : List (Property Schema)}
  {fields out : Dict Json} {j r v : Json}

/-- Names and stored keys are the read keys and written keys of either direction. -/
theorem nodup_keys_of_keysDistinct (h : (Schema.struct ps).keysDistinct = true) (d : Direction) :
    (ps.map d.readKey).Nodup ∧ (ps.map d.writeKey).Nodup := by
  rw [keysDistinct, Bool.and_eq_true, Bool.and_eq_true, decide_eq_true_iff, decide_eq_true_iff] at h
  obtain ⟨⟨hnames, hstored⟩, -⟩ := h
  cases d with
  | decode => exact ⟨hstored, hnames⟩
  | encode => exact ⟨hnames, hstored⟩

theorem keysDistinct_of_mem (h : (Schema.struct ps).keysDistinct = true) (hp : p ∈ ps) :
    p.schema.keysDistinct = true := by
  rw [keysDistinct, Bool.and_eq_true] at h
  exact allKeysDistinct_iff.mp h.2 p hp

theorem unionsFlat_of_mem (h : (Schema.struct ps).unionsFlat = true) (hp : p ∈ ps) :
    p.schema.unionsFlat = true := by
  rw [unionsFlat] at h
  exact allUnionsFlat_iff.mp h p hp

/-! ### What comes back -/

mutual

/-- The part of a value that a parse makes use of. At every record the members that no property
reads are dropped, and so is every `null` that stands for an absent field. -/
def pruned (d : Direction) : Schema → Json → Json
  | .atom _, j => j
  | .array item, j =>
    match j with
    | .array items => .array (items.map (pruned d item))
    | j => j
  | .union _, j => j
  | .struct properties, j =>
    match j with
    | .object fields => .object (Dict.pick (prunedField d properties) fields)
    | j => j
  | .column select _ _, j => pruned d select j

/-- What is left of a member of a record: nothing if no property reads it, or if it is a `null`
that stands for an absent field. -/
def prunedField (d : Direction) : List (Property Schema) → String → Json → Option Json
  | [], _, _ => none
  | p :: ps, key, j =>
    if d.readKey p = key then
      if j.isNull ∧ p.schema.omitsNull then none else some (pruned d p.schema j)
    else prunedField d ps key j

end

/-- A required field is left out by a parse because its value is `null`: somewhere in a record
that the parse reaches, a property is not optional, admits `undefined` but neither `null` nor any
value, and reads a `null`. -/
inductive OmitsRequired (d : Direction) : Schema → Json → Prop where
  | here {ps : List (Property Schema)} {p : Property Schema} {fields : Dict Json} (hp : p ∈ ps)
      (hnull : fields.get? (d.readKey p) = some .null) (homits : p.schema.omitsNull = true)
      (hrequired : p.optional = false) : OmitsRequired d (.struct ps) (.object fields)
  | field {ps : List (Property Schema)} {p : Property Schema} {fields : Dict Json} {j : Json}
      (hp : p ∈ ps) (hj : fields.get? (d.readKey p) = some j) (h : OmitsRequired d p.schema j) :
      OmitsRequired d (.struct ps) (.object fields)
  | item {item : Schema} {items : List Json} {j : Json} (hj : j ∈ items)
      (h : OmitsRequired d item j) : OmitsRequired d (.array item) (.array items)
  | select {select insert update : Schema} {j : Json} (h : OmitsRequired d select j) :
      OmitsRequired d (.column select insert update) j

theorem prunedField_eq_none {key : String} (hkey : key ∉ ps.map d.readKey) (j : Json) :
    prunedField d ps key j = none := by
  induction ps with
  | nil => rfl
  | cons p rest ih =>
    obtain ⟨hp, hrest⟩ := not_or.mp (List.mem_cons.not.mp hkey)
    rw [prunedField, if_neg (Ne.symm hp), ih hrest]

theorem prunedField_of_mem (hkeys : (ps.map d.readKey).Nodup) (hp : p ∈ ps) (j : Json) :
    prunedField d ps (d.readKey p) j =
      if j.isNull ∧ p.schema.omitsNull then none else some (p.schema.pruned d j) := by
  induction ps with
  | nil => cases hp
  | cons q rest ih =>
    obtain ⟨hq, hrest⟩ := List.nodup_cons.mp hkeys
    rw [prunedField]
    rcases List.mem_cons.mp hp with rfl | hp
    · rw [if_pos rfl]
    · have hne : d.readKey q ≠ d.readKey p := fun heq => hq (heq ▸ List.mem_map_of_mem hp)
      rw [if_neg hne, ih hrest hp]

/-- What is left of a record under the key of a property. -/
theorem get?_pruned_struct (hkeys : (ps.map d.readKey).Nodup) (hfields : fields.Ordered)
    (hp : p ∈ ps) :
    (fields.pick (prunedField d ps)).get? (d.readKey p) =
      (fields.get? (d.readKey p)).bind fun j =>
        if j.isNull ∧ p.schema.omitsNull then none else some (p.schema.pruned d j) := by
  rw [Dict.get?_pick hfields.nodup_keys]
  cases fields.get? (d.readKey p) with
  | none => rfl
  | some j => exact prunedField_of_mem hkeys hp j

theorem get?_pruned_struct_of_not_mem (hfields : fields.Ordered) {key : String}
    (hkey : key ∉ ps.map d.readKey) :
    (fields.pick (prunedField d ps)).get? key = none := by
  rw [Dict.get?_pick hfields.nodup_keys]
  cases fields.get? key with
  | none => rfl
  | some j => exact prunedField_eq_none hkey j

/-- Pruning neither makes nor loses a `null`. -/
theorem isNull_pruned (d : Direction) (s : Schema) (j : Json) :
    (s.pruned d j).isNull = j.isNull := by
  induction s generalizing j with
  | atom a => rw [pruned]
  | array item => cases j <;> rfl
  | union members => rw [pruned]
  | struct properties => cases j <;> rfl
  | column select insert update ih => rw [pruned, ih]

theorem not_omitsRequired_null (s : Schema) : ¬ s.OmitsRequired d .null := by
  intro h
  generalize hj : Json.null = j at h
  induction h with
  | here => cases hj
  | field => cases hj
  | item => cases hj
  | select _ ih => exact ih hj

theorem omitsRequired_array_iff {item : Schema} {items : List Json} :
    (Schema.array item).OmitsRequired d (.array items) ↔ ∃ j ∈ items, item.OmitsRequired d j := by
  constructor
  · rintro ⟨⟩
    exact ⟨_, ‹_›, ‹_›⟩
  · rintro ⟨j, hj, h⟩
    exact .item hj h

theorem omitsRequired_column_iff {select insert update : Schema} :
    (Schema.column select insert update).OmitsRequired d j ↔ select.OmitsRequired d j := by
  constructor
  · rintro ⟨⟩
    assumption
  · exact .select

/-- The part of one property in `OmitsRequired`: it leaves out its `null` and is required, or
it is parsed and leaves out a required field further in. -/
def FieldOmits (d : Direction) (p : Property Schema) (fields : Dict Json) : Prop :=
  ∃ j, fields.get? (d.readKey p) = some j ∧
    ((j.isNull ∧ p.schema.omitsNull) ∧ p.optional = false ∨ p.schema.OmitsRequired d j)

theorem omitsRequired_struct_iff :
    (Schema.struct ps).OmitsRequired d (.object fields) ↔ ∃ p ∈ ps, FieldOmits d p fields := by
  constructor
  · intro h
    cases h with
    | here hp hnull homits hrequired =>
      exact ⟨_, hp, .null, hnull, Or.inl ⟨⟨rfl, homits⟩, hrequired⟩⟩
    | field hp hj h => exact ⟨_, hp, _, hj, Or.inr h⟩
  · rintro ⟨p, hp, j, hj, ⟨⟨hnull, homits⟩, hrequired⟩ | h⟩
    · rw [Json.isNull_iff.mp hnull] at hj
      exact .here hp hj homits hrequired
    · exact .field hp hj h

theorem not_fieldOmits_of_absent (h : fields.get? (d.readKey p) = none) :
    ¬ FieldOmits d p fields := by
  rintro ⟨j, hj, -⟩
  rw [h] at hj
  cases hj

theorem fieldOmits_of_omitted_iff (h : fields.get? (d.readKey p) = some j)
    (homit : j.isNull ∧ p.schema.omitsNull) : FieldOmits d p fields ↔ p.optional = false := by
  refine ⟨?_, fun hrequired => ⟨j, h, Or.inl ⟨homit, hrequired⟩⟩⟩
  rintro ⟨j', hj', ⟨-, hrequired⟩ | hdeep⟩
  · exact hrequired
  · obtain rfl : j = j' := Option.some.inj (h.symm.trans hj')
    rw [Json.isNull_iff.mp homit.1] at hdeep
    exact absurd hdeep (not_omitsRequired_null _)

theorem fieldOmits_of_present_iff (h : fields.get? (d.readKey p) = some j)
    (hkept : ¬ (j.isNull ∧ p.schema.omitsNull)) :
    FieldOmits d p fields ↔ p.schema.OmitsRequired d j := by
  refine ⟨?_, fun hdeep => ⟨j, h, Or.inr hdeep⟩⟩
  rintro ⟨j', hj', hcase⟩
  obtain rfl : j = j' := Option.some.inj (h.symm.trans hj')
  exact hcase.resolve_left fun homit => hkept homit.1

/-! ### A second parse in the same direction -/

/-- A reading is not changed by pruning, unless a required field was left out. -/
theorem readField_pruned (hkeys : (ps.map d.readKey).Nodup) (hfields : fields.Ordered) (hp : p ∈ ps)
    (ih : ∀ j r, fields.get? (d.readKey p) = some j → ¬ p.schema.OmitsRequired d j →
      p.schema.parse d j = .ok r → p.schema.parse d (p.schema.pruned d j) = .ok r)
    (hnot : ¬ FieldOmits d p fields) {o : Option Json} (h : readField d p fields = .ok o) :
    readField d p (fields.pick (prunedField d ps)) = .ok o := by
  have hget := get?_pruned_struct hkeys hfields hp
  cases hj : fields.get? (d.readKey p) with
  | none =>
    rw [hj, Option.bind_none] at hget
    rwa [readField_of_absent hget, ← readField_of_absent hj]
  | some j =>
    rw [hj, Option.bind_some] at hget
    by_cases homit : j.isNull ∧ p.schema.omitsNull
    · rw [if_pos homit] at hget
      rw [fieldOmits_of_omitted_iff hj homit, Bool.not_eq_false] at hnot
      rwa [readField_of_absent hget, if_pos hnot, ← readField_of_omitted hj homit]
    · rw [if_neg homit] at hget
      rw [fieldOmits_of_present_iff hj homit] at hnot
      obtain ⟨r, hr, rfl⟩ := (readField_of_present_eq_ok_iff hj homit).mp h
      have hkept : ¬ ((p.schema.pruned d j).isNull ∧ p.schema.omitsNull) := by
        rwa [isNull_pruned]
      exact (readField_of_present_eq_ok_iff hget hkept).mpr ⟨r, ih j r hj hnot hr, rfl⟩

/-- **What is pruned away makes no difference.** -/
theorem parse_pruned (hkeys : s.keysDistinct = true) (hv : v.IsValue) (hnot : ¬ s.OmitsRequired d v)
    (h : s.parse d v = .ok r) : s.parse d (s.pruned d v) = .ok r := by
  induction s generalizing v r with
  | atom a => rwa [pruned]
  | array item ih =>
    rw [keysDistinct] at hkeys
    obtain ⟨items, results, rfl, rfl, hitems⟩ := parse_array_eq_ok_iff.mp h
    have hvalues : ∀ x ∈ items, x.IsValue ∧ ¬ item.OmitsRequired d x := fun x hx =>
      ⟨Json.areValues_iff.mp hv x hx, fun hx' => hnot (.item hx hx')⟩
    refine parse_array_eq_ok_iff.mpr ⟨items.map (item.pruned d), results, by rw [pruned], rfl, ?_⟩
    rw [List.forall₂_map_left_iff]
    refine ((List.forall₂_and_left _ _).mpr ⟨hvalues, hitems⟩).imp ?_
    rintro x y ⟨⟨hx, hxnot⟩, hxy⟩
    exact ih hkeys hx hxnot hxy
  | union members => rwa [pruned]
  | struct ps ih =>
    obtain ⟨hreadKeys, hwriteKeys⟩ := nodup_keys_of_keysDistinct hkeys d
    obtain ⟨fields, out, rfl, rfl⟩ := exists_object_of_parse_struct h
    obtain ⟨hfields, hvalues⟩ := hv
    obtain ⟨hord, hread, hother⟩ := (parse_struct_eq_ok_iff hwriteKeys).mp h
    refine (parse_struct_eq_ok_iff hwriteKeys).mpr ⟨hord, fun p hp => ?_, hother⟩
    have hpnot : ¬ FieldOmits d p fields := fun hp' =>
      hnot (omitsRequired_struct_iff.mpr ⟨p, hp, hp'⟩)
    refine readField_pruned hreadKeys hfields hp (fun j r hj hjnot hr => ?_) hpnot (hread p hp)
    have hvalue := Json.holdValues_iff.mp hvalues _ (Dict.mem_of_get?_eq_some hj)
    exact ih p hp (keysDistinct_of_mem hkeys hp) hvalue hjnot hr
  | column select insert update ih =>
    rw [keysDistinct] at hkeys
    rw [omitsRequired_column_iff] at hnot
    rw [parse_column] at h
    rw [parse_column, pruned]
    exact ih hkeys hv hnot h

/-! ### The way back -/

/-- The way back from `r` to the pruned `j`: it succeeds, or a required field is missing because
its `null` was left out. -/
def ReturnsFrom (d : Direction) (s : Schema) (j r : Json) : Prop :=
  (¬ s.OmitsRequired d j ∧ s.parse d.opposite r = .ok (s.pruned d j)) ∨
    (s.OmitsRequired d j ∧ ∃ path, s.parse d.opposite r = .error ⟨path, .missing⟩)

/-- Without records a value is taken back as it is. -/
theorem parse_opposite_of_holdsRecord_eq_false (hs : s.holdsRecord = false)
    (h : s.parse d v = .ok r) : s.parse d.opposite r = .ok v := by
  obtain rfl := eq_of_parse_of_holdsRecord_eq_false hs h
  rwa [parse_eq_of_holdsRecord_eq_false hs d.opposite d]

/-- The elements of an array are taken back one after the other. The first that cannot be taken
back ends the walk, and the elements after it do not matter any more. -/
theorem parseItems_opposite {item : Schema} {items results : List Json}
    (h : List.Forall₂ (item.ReturnsFrom d) items results) (n : Nat) :
    ((¬ ∃ j ∈ items, item.OmitsRequired d j) ∧
        parseItems (item.parse d.opposite) n results = .ok (items.map (item.pruned d))) ∨
      ((∃ j ∈ items, item.OmitsRequired d j) ∧
        ∃ path, parseItems (item.parse d.opposite) n results = .error ⟨path, .missing⟩) := by
  induction h generalizing n with
  | nil => exact Or.inl ⟨by simp, rfl⟩
  | @cons j r items results hfirst hrest ih =>
    rw [parseItems_cons, List.exists_mem_cons_iff]
    rcases hfirst with ⟨hnot, hr⟩ | ⟨homits, path, hr⟩
    · rw [hr]
      rcases ih (n + 1) with ⟨hnots, hresults⟩ | ⟨homits, path, hresults⟩
      · exact Or.inl ⟨not_or.mpr ⟨hnot, hnots⟩, by rw [hresults]; rfl⟩
      · exact Or.inr ⟨Or.inr homits, path, by rw [hresults]; rfl⟩
    · rw [hr]
      exact Or.inr ⟨Or.inl homits, .index n :: path, rfl⟩

/-- The way back through one property finds what was read, without the parts that are pruned away,
or finds a required field missing. -/
theorem readField_opposite (hkeys : (ps.map d.readKey).Nodup) (hfields : fields.Ordered)
    (hp : p ∈ ps)
    (ih : ∀ j r, fields.get? (d.readKey p) = some j → p.schema.parse d j = .ok r →
      p.schema.ReturnsFrom d j r)
    (h : readField d p fields = .ok (out.get? (d.writeKey p))) :
    (¬ FieldOmits d p fields ∧ readField d.opposite p out =
        .ok ((fields.pick (prunedField d ps)).get? (d.readKey p))) ∨
      (FieldOmits d p fields ∧
        ∃ path, readField d.opposite p out = .error ⟨path, .missing⟩) := by
  rw [get?_pruned_struct hkeys hfields hp]
  rw [← Direction.readKey_opposite] at h
  -- A field that was left out is not found on the way back.
  have habsent (hnone : readField d p fields = .ok none) :
      readField d.opposite p out =
        if p.optional then .ok none else .error ⟨[.key p.name], .missing⟩ := by
    rw [h] at hnone
    exact readField_of_absent (Except.ok.inj hnone)
  cases hj : fields.get? (d.readKey p) with
  | none =>
    have hoptional : p.optional = true := by
      by_contra hrequired
      rw [readField_of_absent hj, if_neg hrequired] at h
      cases h
    refine Or.inl ⟨not_fieldOmits_of_absent hj, ?_⟩
    rw [habsent (by rw [readField_of_absent hj, if_pos hoptional]), if_pos hoptional]
    rfl
  | some j =>
    by_cases homit : j.isNull ∧ p.schema.omitsNull
    · rw [fieldOmits_of_omitted_iff hj homit, habsent (readField_of_omitted hj homit),
        Option.bind_some, if_pos homit]
      cases p.optional with
      | true => exact Or.inl ⟨nofun, rfl⟩
      | false => exact Or.inr ⟨rfl, [.key p.name], rfl⟩
    · obtain ⟨r, hr, hout⟩ := (readField_of_present_eq_ok_iff hj homit).mp h
      have hkept : ¬ (r.isNull ∧ p.schema.omitsNull) := by rwa [isNull_eq_of_parse hr]
      rw [fieldOmits_of_present_iff hj homit, readField_of_present hout hkept, Option.bind_some,
        if_neg homit]
      rcases ih j r hj hr with ⟨hnot, hback⟩ | ⟨homits, path, hback⟩
      · exact Or.inl ⟨hnot, by rw [hback]; rfl⟩
      · exact Or.inr ⟨homits, .key p.name :: path, by rw [hback]; rfl⟩

/-- A record is taken back as the dictionary of what each property finds, unless some property
finds its field missing. -/
theorem parse_struct_opposite (hkeys : (Schema.struct ps).keysDistinct = true)
    (hfields : fields.Ordered)
    (ih : ∀ p ∈ ps, ∀ j r, fields.get? (d.readKey p) = some j → p.schema.parse d j = .ok r →
      p.schema.ReturnsFrom d j r)
    (h : parse d (.struct ps) (.object fields) = .ok (.object out)) :
    (Schema.struct ps).ReturnsFrom d (.object fields) (.object out) := by
  obtain ⟨hreadKeys, hwriteKeys⟩ := nodup_keys_of_keysDistinct hkeys d
  have hopposite : (ps.map d.opposite.writeKey).Nodup := by
    rwa [funext (Direction.writeKey_opposite d)]
  obtain ⟨-, hread, -⟩ := (parse_struct_eq_ok_iff hwriteKeys).mp h
  have hback := fun p hp => readField_opposite hreadKeys hfields hp (ih p hp) (hread p hp)
  rw [ReturnsFrom, omitsRequired_struct_iff]
  by_cases homits : ∃ p ∈ ps, FieldOmits d p fields
  · obtain ⟨p, hp, hpomits⟩ := homits
    obtain ⟨-, path, herror⟩ := (hback p hp).resolve_left fun hnot => hnot.1 hpomits
    -- The error is that of the first property that fails, which need not be `p`.
    obtain ⟨q, hq, e, he, hparse⟩ := exists_readField_eq_error hopposite hp herror
    rcases hback q hq with ⟨-, hok⟩ | ⟨-, path', hmissing⟩
    · rw [hok] at he
      cases he
    · rw [hmissing] at he
      cases he
      exact Or.inr ⟨⟨p, hp, hpomits⟩, path', hparse⟩
  · refine Or.inl ⟨homits, ?_⟩
    rw [pruned, parse_struct_eq_ok_iff hopposite]
    refine ⟨Dict.ordered_pick hfields, fun p hp => ?_, fun key hkey => ?_⟩
    · obtain ⟨-, hok⟩ := (hback p hp).resolve_right fun hp' => homits ⟨p, hp, hp'.1⟩
      rw [hok, Direction.writeKey_opposite]
    · rw [funext (Direction.writeKey_opposite d)] at hkey
      exact get?_pruned_struct_of_not_mem hfields hkey

/-- **The way back.** -/
theorem parse_opposite (hkeys : s.keysDistinct = true) (hunions : s.unionsFlat = true)
    (hv : v.IsValue) (h : s.parse d v = .ok r) : s.ReturnsFrom d v r := by
  induction s generalizing v r with
  | atom a =>
    have hnot : ¬ (Schema.atom a).OmitsRequired d v := by
      rintro ⟨⟩
    refine Or.inl ⟨hnot, ?_⟩
    rw [pruned]
    exact parse_opposite_of_holdsRecord_eq_false rfl h
  | array item ih =>
    rw [keysDistinct] at hkeys
    rw [unionsFlat] at hunions
    obtain ⟨items, results, rfl, rfl, hitems⟩ := parse_array_eq_ok_iff.mp h
    have hvalues := Json.areValues_iff.mp hv
    have hback : List.Forall₂ (item.ReturnsFrom d) items results := by
      refine ((List.forall₂_and_left _ _).mpr ⟨hvalues, hitems⟩).imp ?_
      rintro x y ⟨hx, hxy⟩
      exact ih hkeys hunions hx hxy
    rw [ReturnsFrom, omitsRequired_array_iff, parse, pruned]
    rcases parseItems_opposite hback 0 with ⟨hnots, hresults⟩ | ⟨homits, path, hresults⟩
    · exact Or.inl ⟨hnots, by rw [hresults]; rfl⟩
    · exact Or.inr ⟨homits, path, by rw [hresults]; rfl⟩
  | union members =>
    rw [unionsFlat, Bool.not_eq_true'] at hunions
    have hnot : ¬ (Schema.union members).OmitsRequired d v := by
      rintro ⟨⟩
    refine Or.inl ⟨hnot, ?_⟩
    rw [pruned]
    exact parse_opposite_of_holdsRecord_eq_false (by rwa [holdsRecord]) h
  | struct ps ih =>
    obtain ⟨fields, out, rfl, rfl⟩ := exists_object_of_parse_struct h
    obtain ⟨hfields, hvalues⟩ := hv
    refine parse_struct_opposite hkeys hfields (fun p hp j r hj hr => ?_) h
    have hvalue := Json.holdValues_iff.mp hvalues _ (Dict.mem_of_get?_eq_some hj)
    exact ih p hp (keysDistinct_of_mem hkeys hp) (unionsFlat_of_mem hunions hp) hvalue hr
  | column select insert update ih =>
    rw [keysDistinct] at hkeys
    rw [unionsFlat] at hunions
    rw [parse_column] at h
    rw [ReturnsFrom, omitsRequired_column_iff, parse_column, pruned]
    exact ih hkeys hunions hv h

/-- **Round trip.** A parsed value is either taken back, to what the first parse made use of and
from which the same value is parsed again, or a required field is missing on the way back. The
latter happens exactly when the first parse left out a required field for its `null`. -/
theorem roundTrip (hkeys : s.keysDistinct = true) (hunions : s.unionsFlat = true)
    (hv : v.IsValue) (h : s.parse d v = .ok r) :
    ((s.parse d.opposite r = .ok (s.pruned d v) ∧ s.parse d (s.pruned d v) = .ok r) ∨
        ∃ path, s.parse d.opposite r = .error ⟨path, .missing⟩) ∧
      ((∃ path, s.parse d.opposite r = .error ⟨path, .missing⟩) ↔ s.OmitsRequired d v) := by
  rcases parse_opposite hkeys hunions hv h with ⟨hnot, hback⟩ | ⟨homits, hmissing⟩
  · refine ⟨Or.inl ⟨hback, parse_pruned hkeys hv hnot h⟩, ?_, fun ho => absurd ho hnot⟩
    rintro ⟨path, herror⟩
    rw [hback] at herror
    cases herror
  · exact ⟨Or.inr hmissing, fun _ => homits, fun _ => hmissing⟩

/-- A record whose two fields are stored under each other's name. -/
def crossed : Schema :=
  .struct
    [⟨"a", some "b", .array (.struct [⟨"x", some "y", .atom .number, false⟩]), false⟩,
     ⟨"b", some "a", .union [.atom .string, .undefined], true⟩]

/-- A stored record with members that nothing reads and a `null` that is left out. -/
def crossedRow : Json :=
  .object
    [("a", .null), ("b", .array [.object [("x", .bool true), ("y", .int 1)]]), ("c", .int 0)]

/-- What `crossedRow` is decoded to. -/
def crossedRecord : Json :=
  .object [("a", .array [.object [("x", .int 1)]])]

theorem roundTrip_crossedRow :
    crossed.keysDistinct = true ∧ crossed.unionsFlat = true ∧ crossedRow.IsValue ∧
      crossed.parse .decode crossedRow = .ok crossedRecord ∧
      ((crossed.parse .encode crossedRecord = .ok (crossed.pruned .decode crossedRow) ∧
          crossed.parse .decode (crossed.pruned .decode crossedRow) = .ok crossedRecord) ∨
        ∃ path, crossed.parse .encode crossedRecord = .error ⟨path, .missing⟩) ∧
      ((∃ path, crossed.parse .encode crossedRecord = .error ⟨path, .missing⟩) ↔
        crossed.OmitsRequired .decode crossedRow) := by
  have hkeys : crossed.keysDistinct = true := by decide
  have hunions : crossed.unionsFlat = true := by decide
  have hvalue : crossedRow.IsValue := by decide
  have hparse : crossed.parse .decode crossedRow = .ok crossedRecord := by decide
  exact ⟨hkeys, hunions, hvalue, hparse, roundTrip hkeys hunions hvalue hparse⟩

/-- A required field that is left out for its `null` is missing on the way back. -/
example :
    let s : Schema := .struct [⟨"a", none, .union [.atom .string, .undefined], false⟩]
    s.decode (.object [("a", .null)]) = .ok (.object []) ∧
      s.encode (.object []) = .error ⟨[.key "a"], .missing⟩ := by
  decide

end RowSchema.Schema
