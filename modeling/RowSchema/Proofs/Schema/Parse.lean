import Mathlib.Data.List.Forall2
import RowSchema.Proofs.Dict
import RowSchema.Schema.Parse

/-!
# What parsing computes

Three arms of `Schema.parse` walk a list: the elements of an array, the members of a union and the
properties of a record. Each walk is described here once, by an equivalence for success, so that
later proofs speak of elements, members and properties and never open the walk.

## Records

The unit of a record is the reading of a single property, `readField`: a value to be written, or
nothing because the field is left out, or an error. Readings of different properties do not
influence each other, and the parsed record is the one ordered dictionary that holds each reading
under its written key. This needs the written keys to differ; with equal ones the last reading
would hide the others.

## Main definitions

* `Schema.readField` — what one property reads from a record

## Main results

* `Schema.parse_atom_eq_ok_iff`, `parse_array_eq_ok_iff`, `parse_union_eq_ok_iff`,
  `parse_struct_eq_ok_iff` — success, for each kind of schema
* `Schema.exists_readField_eq_error` — an error of a record is the error of one reading
* `Schema.isNull_eq_of_parse` — parsing neither makes nor loses a `null`
-/

namespace RowSchema.Schema

variable {d : Direction} {s : Schema} {j r : Json} {α : Type}

/-! ### Places -/

@[simp] theorem located_ok (step : Segment) (a : α) : located step (.ok a) = .ok a := rfl

@[simp] theorem located_error (step : Segment) (e : ParseError) :
    located step (.error e : Except ParseError α) = .error (e.within step) := rfl

/-! ### Arrays -/

theorem parseItems_cons (item : Json → Except ParseError Json) (n : Nat) (j : Json)
    (rest : List Json) :
    parseItems item n (j :: rest) =
      match item j with
      | .error e => .error (e.within (.index n))
      | .ok first => (parseItems item (n + 1) rest).map (first :: ·) := by
  rw [parseItems]
  cases item j with
  | error e => rfl
  | ok first => cases parseItems item (n + 1) rest <;> rfl

theorem parseItems_eq_ok_iff {item : Json → Except ParseError Json} {n : Nat}
    {items results : List Json} :
    parseItems item n items = .ok results ↔
      List.Forall₂ (fun j r => item j = .ok r) items results := by
  induction items generalizing n results with
  | nil => simp [parseItems, eq_comm]
  | cons j rest ih =>
    rw [parseItems_cons]
    cases hj : item j with
    | error e => simp [List.forall₂_cons_left_iff, hj]
    | ok first =>
      rw [List.forall₂_cons_left_iff]
      constructor
      · intro h
        cases hrest : parseItems item (n + 1) rest with
        | error e => simp [hrest, Except.map] at h
        | ok others =>
          refine ⟨first, others, hj, ih.mp hrest, ?_⟩
          simpa [hrest, Except.map, eq_comm] using h
      · rintro ⟨first', others, hfirst, hothers, rfl⟩
        have hsame : first = first' := by simpa [hj] using hfirst
        simp [ih.mpr hothers, hsame, Except.map]

/-! ### Unions -/

/-- The first schema that accepts the value decides. -/
theorem parseAny_eq_findSome? (d : Direction) (members : List Schema) (j : Json) :
    parseAny d members j = members.findSome? fun m => (m.parse d j).toOption := by
  induction members with
  | nil => rfl
  | cons m rest ih =>
    rw [parseAny, List.findSome?_cons, ← ih]
    cases m.parse d j <;> rfl

/-! ### Success -/

theorem parse_atom_eq_ok_iff {a : Atom} : parse d (.atom a) j = .ok r ↔ a.accepts j ∧ j = r := by
  rw [parse]
  by_cases ha : a.accepts j = true <;> simp [ha]

theorem parse_array_eq_ok_iff {item : Schema} :
    parse d (.array item) j = .ok r ↔
      ∃ items results, j = .array items ∧ r = .array results ∧
        List.Forall₂ (fun x y => item.parse d x = .ok y) items results := by
  cases j with
  | array items =>
    rw [parse]
    cases h : parseItems (parse d item) 0 items with
    | ok results =>
      have hitems := parseItems_eq_ok_iff.mp h
      constructor
      · intro hr
        exact ⟨items, results, rfl, by simpa [Except.map, eq_comm] using hr, hitems⟩
      · rintro ⟨items', results', hj, rfl, hitems'⟩
        cases hj
        rw [parseItems_eq_ok_iff.mpr hitems'] at h
        cases h
        rfl
    | error e =>
      refine ⟨fun hr => by simp [Except.map] at hr, ?_⟩
      rintro ⟨items', results', hj, -, hitems'⟩
      cases hj
      rw [parseItems_eq_ok_iff.mpr hitems'] at h
      cases h
  | _ => simp [parse]

theorem parse_union_eq_ok_iff {members : List Schema} :
    parse d (.union members) j = .ok r ↔
      members.findSome? (fun m => (m.parse d j).toOption) = some r := by
  rw [parse, parseAny_eq_findSome?]
  cases members.findSome? fun m => (m.parse d j).toOption <;> simp

theorem exists_mem_of_parse_union {members : List Schema}
    (h : parse d (.union members) j = .ok r) : ∃ m ∈ members, m.parse d j = .ok r := by
  obtain ⟨m, hm, hr⟩ := List.exists_of_findSome?_eq_some (parse_union_eq_ok_iff.mp h)
  refine ⟨m, hm, ?_⟩
  cases hp : m.parse d j with
  | error e => simp [hp, Except.toOption] at hr
  | ok r' => simpa [hp, Except.toOption] using hr

@[simp] theorem parse_column (d : Direction) (select insert update : Schema) (j : Json) :
    parse d (.column select insert update) j = select.parse d j := by
  rw [parse]

/-! ### Records -/

/-- What a property reads from the fields of a record: the value to be written, or nothing. -/
def readField (d : Direction) (p : Property Schema) (fields : Dict Json) :
    Except ParseError (Option Json) :=
  match fields.get? (d.readKey p) with
  | some j =>
    if j.isNull ∧ p.schema.omitsNull then .ok none
    else (located (.key p.name) (p.schema.parse d j)).map some
  | none => if p.optional then .ok none else .error ⟨[.key p.name], .missing⟩

variable {p : Property Schema} {ps : List (Property Schema)} {fields : Dict Json}

theorem readField_of_absent (h : fields.get? (d.readKey p) = none) :
    readField d p fields = if p.optional then .ok none else .error ⟨[.key p.name], .missing⟩ := by
  rw [readField, h]

theorem readField_of_omitted (h : fields.get? (d.readKey p) = some j)
    (homit : j.isNull ∧ p.schema.omitsNull) : readField d p fields = .ok none := by
  rw [readField, h]
  exact if_pos homit

theorem readField_of_present (h : fields.get? (d.readKey p) = some j)
    (hkept : ¬ (j.isNull ∧ p.schema.omitsNull)) :
    readField d p fields = (located (.key p.name) (p.schema.parse d j)).map some := by
  rw [readField, h]
  exact if_neg hkept

theorem readField_of_present_eq_ok_iff (h : fields.get? (d.readKey p) = some j)
    (hkept : ¬ (j.isNull ∧ p.schema.omitsNull)) {o : Option Json} :
    readField d p fields = .ok o ↔ ∃ r, p.schema.parse d j = .ok r ∧ o = some r := by
  rw [readField_of_present h hkept]
  cases p.schema.parse d j with
  | error e => simp [Except.map]
  | ok r => simp [Except.map, eq_comm]

theorem parseFields_cons (d : Direction) (p : Property Schema) (ps : List (Property Schema))
    (fields : Dict Json) :
    parseFields d (p :: ps) fields =
      match readField d p fields with
      | .error e => .error e
      | .ok none => parseFields d ps fields
      | .ok (some j) => (parseFields d ps fields).map ((d.writeKey p, j) :: ·) := by
  rw [parseFields, readField]
  cases fields.get? (d.readKey p) with
  | none => cases p.optional <;> rfl
  | some j =>
    by_cases homit : j.isNull ∧ p.schema.omitsNull
    · simp only [if_pos homit]
    · simp only [if_neg homit]
      cases p.schema.parse d j with
      | error e => rfl
      | ok r => cases parseFields d ps fields <;> rfl

/-- The written keys come in the order of the properties, some of them left out. -/
theorem keys_parseFields_sublist {entries : List (String × Json)}
    (h : parseFields d ps fields = .ok entries) :
    (Dict.keys entries).Sublist (ps.map d.writeKey) := by
  induction ps generalizing entries with
  | nil =>
    have hnil : [] = entries := by simpa [parseFields] using h
    simp [← hnil]
  | cons p ps ih =>
    rw [parseFields_cons] at h
    cases hp : readField d p fields with
    | error e => simp [hp] at h
    | ok o =>
      cases o with
      | none => exact (ih (by simpa [hp] using h)).cons _
      | some r =>
        cases hrest : parseFields d ps fields with
        | error e => simp [hp, hrest, Except.map] at h
        | ok others =>
          have he : (d.writeKey p, r) :: others = entries := by
            simpa [hp, hrest, Except.map] using h
          rw [← he]
          exact (ih hrest).cons_cons _

/-- Each property finds its own reading under its written key. -/
theorem readField_eq_of_parseFields (hkeys : (ps.map d.writeKey).Nodup)
    {entries : List (String × Json)} (h : parseFields d ps fields = .ok entries) :
    ∀ p ∈ ps, readField d p fields = .ok (Dict.get? entries (d.writeKey p)) := by
  induction ps generalizing entries with
  | nil => simp
  | cons p ps ih =>
    obtain ⟨hp, hps⟩ := List.nodup_cons.mp hkeys
    have hlater : ∀ q ∈ ps, d.writeKey p ≠ d.writeKey q := fun q hq heq =>
      hp (heq ▸ List.mem_map_of_mem hq)
    rw [parseFields_cons] at h
    cases hread : readField d p fields with
    | error e => simp [hread] at h
    | ok o =>
      cases o with
      | none =>
        have hrest : parseFields d ps fields = .ok entries := by simpa [hread] using h
        have hnone : Dict.get? entries (d.writeKey p) = none :=
          Dict.get?_eq_none_iff.mpr fun hmem => hp ((keys_parseFields_sublist hrest).subset hmem)
        exact List.forall_mem_cons.mpr ⟨by rw [hread, hnone], ih hps hrest⟩
      | some r =>
        cases hrest : parseFields d ps fields with
        | error e => simp [hread, hrest, Except.map] at h
        | ok others =>
          have he : (d.writeKey p, r) :: others = entries := by
            simpa [hread, hrest, Except.map] using h
          rw [← he]
          refine List.forall_mem_cons.mpr ⟨by simp [hread, Dict.get?], fun q hq => ?_⟩
          rw [ih hps hrest q hq, Dict.get?, if_neg (hlater q hq)]

theorem exists_mem_of_parseFields_eq_error {e : ParseError}
    (h : parseFields d ps fields = .error e) : ∃ p ∈ ps, readField d p fields = .error e := by
  induction ps with
  | nil => simp [parseFields] at h
  | cons p ps ih =>
    rw [parseFields_cons] at h
    have later (hrest : parseFields d ps fields = .error e) :
        ∃ q ∈ p :: ps, readField d q fields = .error e := by
      obtain ⟨q, hq, hqe⟩ := ih hrest
      exact ⟨q, List.mem_cons_of_mem _ hq, hqe⟩
    cases hread : readField d p fields with
    | error e' => exact ⟨p, List.mem_cons_self .., by simpa [hread] using h⟩
    | ok o =>
      cases o with
      | none => exact later (by simpa [hread] using h)
      | some r =>
        cases hrest : parseFields d ps fields with
        | ok others => simp [hread, hrest, Except.map] at h
        | error e' => exact later (by simpa [hread, hrest, Except.map] using h)

theorem parse_struct_object (d : Direction) (ps : List (Property Schema)) (fields : Dict Json) :
    parse d (.struct ps) (.object fields) =
      (parseFields d ps fields).map fun entries => .object (Dict.ofEntries entries) := by
  rw [parse]

/-- Only an object is parsed to a record. -/
theorem exists_object_of_parse_struct (h : parse d (.struct ps) j = .ok r) :
    ∃ fields out, j = .object fields ∧ r = .object out := by
  cases j with
  | object fields =>
    rw [parse_struct_object] at h
    cases hentries : parseFields d ps fields with
    | error e => simp [hentries, Except.map] at h
    | ok entries =>
      have hr : .object (Dict.ofEntries entries) = r := by simpa [hentries, Except.map] using h
      exact ⟨fields, Dict.ofEntries entries, rfl, hr.symm⟩
  | _ => simp [parse] at h

/-- **Records.** A record is parsed to the ordered dictionary in which each property finds its
reading under its written key, and which has no other keys. -/
theorem parse_struct_eq_ok_iff (hkeys : (ps.map d.writeKey).Nodup) {out : Dict Json} :
    parse d (.struct ps) (.object fields) = .ok (.object out) ↔
      Dict.Ordered out ∧
        (∀ p ∈ ps, readField d p fields = .ok (out.get? (d.writeKey p))) ∧
        ∀ key, key ∉ ps.map d.writeKey → out.get? key = none := by
  have hdict : ∀ entries, parseFields d ps fields = .ok entries →
      ∀ key, (Dict.ofEntries entries).get? key = Dict.get? entries key := fun entries h =>
    Dict.get?_ofEntries ((keys_parseFields_sublist h).nodup hkeys)
  rw [parse_struct_object]
  constructor
  · intro h
    cases hentries : parseFields d ps fields with
    | error e => simp [hentries, Except.map] at h
    | ok entries =>
      have hout : Dict.ofEntries entries = out := by simpa [hentries, Except.map] using h
      rw [← hout]
      refine ⟨Dict.ordered_ofEntries entries, fun p hp => ?_, fun key hkey => ?_⟩
      · rw [hdict entries hentries, readField_eq_of_parseFields hkeys hentries p hp]
      · rw [hdict entries hentries]
        exact Dict.get?_eq_none_iff.mpr fun hmem =>
          hkey ((keys_parseFields_sublist hentries).subset hmem)
  · rintro ⟨hord, hread, hother⟩
    cases hentries : parseFields d ps fields with
    | error e =>
      obtain ⟨p, hp, he⟩ := exists_mem_of_parseFields_eq_error hentries
      rw [hread p hp] at he
      cases he
    | ok entries =>
      have hsame : Dict.ofEntries entries = out := by
        refine Dict.ext_get? (Dict.ordered_ofEntries entries) hord fun key => ?_
        rw [hdict entries hentries]
        by_cases hkey : key ∈ ps.map d.writeKey
        · obtain ⟨p, hp, rfl⟩ := List.mem_map.mp hkey
          have := (readField_eq_of_parseFields hkeys hentries p hp).symm.trans (hread p hp)
          simpa using this
        · rw [hother key hkey]
          exact Dict.get?_eq_none_iff.mpr fun hmem =>
            hkey ((keys_parseFields_sublist hentries).subset hmem)
      rw [← hsame]
      rfl

/-- A record is parsed if every property can be read. -/
theorem exists_parse_struct_eq_ok (h : ∀ p ∈ ps, ∃ o, readField d p fields = .ok o) :
    ∃ out, parse d (.struct ps) (.object fields) = .ok (.object out) := by
  rw [parse_struct_object]
  cases hentries : parseFields d ps fields with
  | ok entries => exact ⟨Dict.ofEntries entries, rfl⟩
  | error e =>
    obtain ⟨p, hp, he⟩ := exists_mem_of_parseFields_eq_error hentries
    obtain ⟨o, ho⟩ := h p hp
    rw [ho] at he
    cases he

/-- A record with a property that cannot be read is rejected, with the error of such a property. -/
theorem exists_readField_eq_error (hkeys : (ps.map d.writeKey).Nodup) (hp : p ∈ ps)
    {e : ParseError} (h : readField d p fields = .error e) :
    ∃ q ∈ ps, ∃ e', readField d q fields = .error e' ∧
      parse d (.struct ps) (.object fields) = .error e' := by
  rw [parse_struct_object]
  cases hentries : parseFields d ps fields with
  | error e' =>
    obtain ⟨q, hq, he'⟩ := exists_mem_of_parseFields_eq_error hentries
    exact ⟨q, hq, e', he', rfl⟩
  | ok entries =>
    rw [readField_eq_of_parseFields hkeys hentries p hp] at h
    cases h

/-! ### Null -/

/-- **Parsing keeps `null` apart.** Only `null` is parsed to `null`, and to nothing else. -/
theorem isNull_eq_of_parse (h : s.parse d j = .ok r) : r.isNull = j.isNull := by
  induction s generalizing j r with
  | atom a => rw [(parse_atom_eq_ok_iff.mp h).2]
  | array item =>
    obtain ⟨items, results, rfl, rfl, -⟩ := parse_array_eq_ok_iff.mp h
    rfl
  | union members ih =>
    obtain ⟨m, hm, hr⟩ := exists_mem_of_parse_union h
    exact ih m hm hr
  | struct properties =>
    obtain ⟨fields, out, rfl, rfl⟩ := exists_object_of_parse_struct h
    rfl
  | column select insert update ih =>
    rw [parse_column] at h
    exact ih h

end RowSchema.Schema
