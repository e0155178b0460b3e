import RowSchema.Proofs.Schema.RoundTrip
import RowSchema.Proofs.Schema.Union

/-!
# The two directions as mirror images

Decoding and encoding are one walk through the schema. The direction is handed down to every part of
it and looked at in one place only: it says which of the two keys of a property is read and which is
written. So a direction can be traded for its opposite if the two keys of every property are traded
at the same time, which is what the mirror image of a schema does.

Nothing is asked of the keys. Two properties may have one name or one stored key, because the mirror
image keeps the properties in their order and the entries are written in that order.

## What a failure tells

The mirror image names a rejected field by the other one of its keys, so the two failures differ in
their paths and in the schema that was expected. Only success is compared there. Without renames
nothing is traded, and the failures are the same as well.

## Main definitions

* `Schema.mirror` — the name and the stored key of every property exchanged
* `Schema.keepsNames` — every property is stored under its name

## Main results

* `Schema.parse_mirror_eq_ok_iff` — a direction on the schema is its opposite on the mirror image
* `Schema.parse_eq_of_keepsNames` — without renames the direction makes no difference
* `Schema.directions_mirrored` — both together
-/

namespace RowSchema.Schema

variable {d : Direction} {s : Schema} {p : Property Schema} {ps : List (Property Schema)}
  {fields : Dict Json} {v r : Json}

/-! ### The mirror image -/

/-- A property of another type, named by the stored key and stored under the name. -/
def Property.exchanged {σ τ : Type} (p : Property σ) (schema : τ) : Property τ :=
  (Property.mk p.storedKey none schema p.optional).storedAs p.name

mutual

/-- The schema with the name and the stored key of every property exchanged, at any depth. -/
def mirror : Schema → Schema
  | .atom a => .atom a
  | .array item => .array item.mirror
  | .union members => .union (mirrorMembers members)
  | .struct properties => .struct (mirrorProperties properties)
  | .column select insert update => .column select.mirror insert.mirror update.mirror

/-- The mirror images of the members of a union. -/
def mirrorMembers : List Schema → List Schema
  | [] => []
  | m :: ms => m.mirror :: mirrorMembers ms

/-- The properties of the mirror image of a record. -/
def mirrorProperties : List (Property Schema) → List (Property Schema)
  | [] => []
  | p :: ps => p.exchanged p.schema.mirror :: mirrorProperties ps

end

theorem mirrorMembers_eq_map (ms : List Schema) : mirrorMembers ms = ms.map mirror := by
  induction ms with
  | nil => rfl
  | cons m rest ih => rw [mirrorMembers, ih, List.map_cons]

theorem storedKey_exchanged (p : Property Schema) (s : Schema) :
    (p.exchanged s).storedKey = p.name :=
  Property.storedKey_storedAs _ p.name

theorem Direction.readKey_exchanged (d : Direction) (p : Property Schema) (s : Schema) :
    d.readKey (p.exchanged s) = d.writeKey p := by
  cases d with
  | decode => exact storedKey_exchanged p s
  | encode => rfl

theorem Direction.writeKey_exchanged (d : Direction) (p : Property Schema) (s : Schema) :
    d.writeKey (p.exchanged s) = d.readKey p := by
  cases d with
  | decode => rfl
  | encode => exact storedKey_exchanged p s

/-! ### Nulls -/

/-- The mirror image has the same atoms in the same places. -/
theorem admits_mirror (leaf : Atom → Bool) (s : Schema) : s.mirror.admits leaf = s.admits leaf := by
  induction s with
  | atom a => rfl
  | array item => rfl
  | union members ih =>
    rw [mirror, admits, admits]
    induction members with
    | nil => rfl
    | cons m rest ihrest =>
      obtain ⟨hm, hrest⟩ := List.forall_mem_cons.mp ih
      rw [mirrorMembers, anyAdmits, anyAdmits, hm, ihrest hrest]
  | struct properties => rfl
  | column select insert update ih => rwa [mirror, admits, admits]

theorem omitsNull_mirror (s : Schema) : s.mirror.omitsNull = s.omitsNull := by
  rw [omitsNull, omitsNull, admits_mirror, admits_mirror]

/-! ### The opposite direction -/

/-- What a property reads is what its mirror image reads in the opposite direction, from the same
key. -/
theorem readField_exchanged_eq_ok_iff
    (ih : ∀ j r, p.schema.mirror.parse d.opposite j = .ok r ↔ p.schema.parse d j = .ok r)
    {o : Option Json} :
    readField d.opposite (p.exchanged p.schema.mirror) fields = .ok o ↔
      readField d p fields = .ok o := by
  have hkey : d.opposite.readKey (p.exchanged p.schema.mirror) = d.readKey p := by
    rw [Direction.readKey_exchanged, Direction.writeKey_opposite]
  have homits : (p.exchanged p.schema.mirror).schema.omitsNull = p.schema.omitsNull :=
    omitsNull_mirror p.schema
  cases hj : fields.get? (d.readKey p) with
  | none =>
    rw [readField_of_absent (hkey ▸ hj), readField_of_absent hj]
    show (if p.optional then _ else _) = _ ↔ _
    cases p.optional <;> simp
  | some j =>
    by_cases homit : j.isNull ∧ p.schema.omitsNull
    · rw [readField_of_omitted (hkey ▸ hj) (homits ▸ homit), readField_of_omitted hj homit]
    · rw [readField_of_present_eq_ok_iff (hkey ▸ hj) (homits ▸ homit),
        readField_of_present_eq_ok_iff hj homit]
      exact exists_congr fun r => and_congr_left fun _ => ih j r

/-- Members that accept alike are tried alike. -/
theorem parseAny_map_congr {d d' : Direction} {f : Schema → Schema} {ms : List Schema}
    (h : ∀ m ∈ ms, ((f m).parse d' v).toOption = (m.parse d v).toOption) :
    parseAny d' (ms.map f) v = parseAny d ms v := by
  induction ms with
  | nil => rfl
  | cons m rest ih =>
    obtain ⟨hm, hrest⟩ := List.forall_mem_cons.mp h
    rw [List.map_cons, parseAny_cons, parseAny_cons, hm, ih hrest]

/-- The entries of a record are written in the order of the properties, so those under one key hide
each other in the same way. -/
theorem parseFields_mirrorProperties_eq_ok_iff
    (ih : ∀ p ∈ ps, ∀ j r, p.schema.mirror.parse d.opposite j = .ok r ↔ p.schema.parse d j = .ok r)
    {entries : List (String × Json)} :
    parseFields d.opposite (mirrorProperties ps) fields = .ok entries ↔
      parseFields d ps fields = .ok entries := by
  induction ps generalizing entries with
  | nil => rw [mirrorProperties, parseFields, parseFields]
  | cons p rest ihrest =>
    obtain ⟨hp, hrest⟩ := List.forall_mem_cons.mp ih
    have hread : ∀ o, readField d.opposite (p.exchanged p.schema.mirror) fields = .ok o ↔
        readField d p fields = .ok o := fun _ => readField_exchanged_eq_ok_iff hp
    have hwrite : d.opposite.writeKey (p.exchanged p.schema.mirror) = d.writeKey p := by
      rw [Direction.writeKey_exchanged, Direction.readKey_opposite]
    rw [mirrorProperties, parseFields_cons, parseFields_cons, hwrite]
    cases h : readField d p fields with
    | ok o =>
      rw [(hread o).mpr h]
      cases o with
      | none => exact ihrest hrest
      | some j => simp only [map_eq_ok_iff, ihrest hrest]
    | error e =>
      cases h' : readField d.opposite (p.exchanged p.schema.mirror) fields with
      | ok o =>
        rw [(hread o).mp h'] at h
        cases h
      | error e' => simp

/-- **The mirror image.** A direction on a schema succeeds as its opposite does on the mirror image,
with the same result. -/
theorem parse_mirror_eq_ok_iff :
    s.mirror.parse d.opposite v = .ok r ↔ s.parse d v = .ok r := by
  induction s generalizing v r with
  | atom a => rw [mirror, parse_atom_eq_ok_iff, parse_atom_eq_ok_iff]
  | array item ih =>
    rw [mirror, parse_array_eq_ok_iff, parse_array_eq_ok_iff]
    simp only [ih]
  | union members ih =>
    rw [mirror, mirrorMembers_eq_map, ← toOption_eq_some_iff, ← toOption_eq_some_iff,
      toOption_parse_union, toOption_parse_union]
    rw [parseAny_map_congr fun m hm => toOption_eq_of_ok_iff fun r => ih m hm]
  | struct properties ih =>
    rw [mirror]
    cases v with
    | object fields =>
      rw [parse_struct_object, parse_struct_object, map_eq_ok_iff, map_eq_ok_iff]
      simp only [parseFields_mirrorProperties_eq_ok_iff fun p hp j r => ih p hp]
    | _ => simp [parse]
  | column select insert update ih => rw [mirror, parse_column, parse_column, ih]

/-! ### Without renames -/

mutual

/-- Every property at any depth is stored under its name. -/
def keepsNames : Schema → Bool
  | .atom _ => true
  | .array item => item.keepsNames
  | .union members => allKeepNames members
  | .struct properties => allStoredByName properties
  | .column select insert update => select.keepsNames && insert.keepsNames && update.keepsNames

/-- No schema of a list has a rename. -/
def allKeepNames : List Schema → Bool
  | [] => true
  | m :: ms => m.keepsNames && allKeepNames ms

/-- The properties of a record are stored under their names, and their schemas have no renames. -/
def allStoredByName : List (Property Schema) → Bool
  | [] => true
  | p :: ps => decide (p.storedKey = p.name) && p.schema.keepsNames && allStoredByName ps

end

theorem allKeepNames_iff {ms : List Schema} :
    allKeepNames ms = true ↔ ∀ m ∈ ms, m.keepsNames = true := by
  induction ms with
  | nil => simp [allKeepNames]
  | cons m rest ih => simp [allKeepNames, ih]

theorem allStoredByName_iff {ps : List (Property Schema)} :
    allStoredByName ps = true ↔
      ∀ p ∈ ps, p.storedKey = p.name ∧ p.schema.keepsNames = true := by
  induction ps with
  | nil => simp [allStoredByName]
  | cons p rest ih => simp [allStoredByName, ih]

/-- A property that is stored under its name has one key. -/
theorem Direction.keys_eq_name (h : p.storedKey = p.name) (d : Direction) :
    d.readKey p = p.name ∧ d.writeKey p = p.name := by
  cases d with
  | decode => exact ⟨h, rfl⟩
  | encode => exact ⟨rfl, h⟩

/-- Records are parsed alike in two directions in which their properties are. -/
theorem parseFields_eq_of_storedByName {d' : Direction}
    (hkeys : ∀ p ∈ ps, p.storedKey = p.name)
    (h : ∀ p ∈ ps, ∀ j, p.schema.parse d' j = p.schema.parse d j) :
    parseFields d' ps fields = parseFields d ps fields := by
  induction ps with
  | nil => rw [parseFields, parseFields]
  | cons p rest ih =>
    obtain ⟨hp, hrest⟩ := List.forall_mem_cons.mp h
    obtain ⟨hkey, hkeysRest⟩ := List.forall_mem_cons.mp hkeys
    obtain ⟨hread, hwrite⟩ := Direction.keys_eq_name hkey d
    obtain ⟨hread', hwrite'⟩ := Direction.keys_eq_name hkey d'
    have hfield : readField d' p fields = readField d p fields := by
      simp only [readField, hread, hread', hp]
    rw [parseFields_cons, parseFields_cons, hfield, hwrite, hwrite', ih hkeysRest hrest]

/-- **Without renames** the direction makes no difference, failures included. -/
theorem parse_eq_of_keepsNames (h : s.keepsNames = true) (d d' : Direction) :
    s.parse d' v = s.parse d v := by
  induction s generalizing v with
  | atom a => rw [parse, parse]
  | array item ih =>
    rw [keepsNames] at h
    have hitem : parse d' item = parse d item := funext fun j => ih h
    cases v with
    | array items => simp only [parse, hitem]
    | _ => simp only [parse]
  | union members ih =>
    rw [keepsNames, allKeepNames_iff] at h
    have hmembers : parseAny d' (members.map id) v = parseAny d members v :=
      parseAny_map_congr fun m hm => by rw [id, ih m hm (h m hm)]
    rw [List.map_id] at hmembers
    rw [parse, parse, hmembers]
  | struct properties ih =>
    rw [keepsNames, allStoredByName_iff] at h
    cases v with
    | object fields =>
      rw [parse_struct_object, parse_struct_object,
        parseFields_eq_of_storedByName (fun p hp => (h p hp).1) fun p hp j => ih p hp (h p hp).2]
    | _ => simp only [parse]
  | column select insert update ih =>
    rw [keepsNames, Bool.and_eq_true, Bool.and_eq_true] at h
    rw [parse_column, parse_column, ih h.1.1]

/-- **The two directions are mirror images.** Encoding succeeds exactly when decoding by the mirror
image does, and with the same result, and the other way round. Without renames encoding and decoding
are the same function. -/
theorem directions_mirrored (s : Schema) (v : Json) :
    (∀ r, s.encode v = .ok r ↔ s.mirror.decode v = .ok r) ∧
      (∀ r, s.decode v = .ok r ↔ s.mirror.encode v = .ok r) ∧
      (s.keepsNames = true → s.encode v = s.decode v) :=
  ⟨fun _ => (parse_mirror_eq_ok_iff (d := .encode)).symm,
    fun _ => parse_mirror_eq_ok_iff.symm,
    fun h => parse_eq_of_keepsNames h .decode .encode⟩

/-- Two properties hide each other under one name and are written under one key by the mirror
image. The later one counts both times. -/
example :
    let s : Schema :=
      .struct [⟨"a", some "x", .atom .number, false⟩, ⟨"a", some "y", .unknown, false⟩]
    let row := Json.object [("x", .int 1), ("y", .int 2)]
    s.decode row = .ok (.object [("a", .int 2)]) ∧
      s.mirror.encode row = .ok (.object [("a", .int 2)]) := by
  decide

/-- An order with its lines. One key is recorded although it is the name. -/
def order : Schema :=
  .struct
    [⟨"lines", some "lines",
        .array (.struct [.required "price" (generated (.atom .number))]), false⟩,
     .leftOut "note" (orUndefined (.atom .string))]

/-- An order whose second line is not priced by a number. -/
def orderRow : Json :=
  .object
    [("lines", .array [.object [("price", .int 5)], .object [("price", .bool true)]]),
     ("note", .null)]

theorem directions_mirrored_order :
    order.keepsNames = true ∧
      order.decode orderRow =
        .error ⟨[.key "lines", .index 1, .key "price"], .type (.atom .number) (.bool true)⟩ ∧
      (∀ r, order.encode orderRow = .ok r ↔ order.mirror.decode orderRow = .ok r) ∧
      (∀ r, order.decode orderRow = .ok r ↔ order.mirror.encode orderRow = .ok r) ∧
      order.encode orderRow = order.decode orderRow := by
  have hnames : order.keepsNames = true := by decide
  obtain ⟨hencode, hdecode, hsame⟩ := directions_mirrored order orderRow
  exact ⟨hnames, by decide, hencode, hdecode, hsame hnames⟩

end RowSchema.Schema
