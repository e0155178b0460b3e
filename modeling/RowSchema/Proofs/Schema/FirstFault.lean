import RowSchema.Proofs.Schema.Parse

/-!
# Where parsing fails

The path of an error is put together from the inside out, one step for each array and each record
that the error leaves. Read from the outside in it is a walk through the schema and the value at
once: an index leads from an array to an element, a key from a record to the value that the property
of that name reads, and a column is passed without a step to its selected side. No walk enters a
union, which fails as a whole.

A walk goes past elements and properties on its way. It is the walk to the *first* fault if none of
them fails, and that is what parsing reports: the errors of `Schema.parse` are exactly the first
faults.

## Main definitions

* `Schema.Passable` — a property that is parsed, or left out as it may be
* `Schema.Leads` — a walk past elements and properties that do not fail
* `Schema.FailsAt` — the place where a walk ends and the reason
* `Schema.FirstFault` — an error that names the end of a walk

## Main results

* `Schema.parseItems_eq_error_iff`, `parseFields_eq_error_iff` — the first failure of a list
* `Schema.parse_eq_error_iff` — the errors of parsing are the first faults

## Implementation notes

A missing field has no value to walk to. The last step of its path is therefore no part of the walk,
which ends at the record that lacks the field.
-/

namespace RowSchema.Schema

variable {d : Direction} {s t : Schema} {j w : Json} {e : ParseError} {p : Property Schema}
  {ps : List (Property Schema)} {fields : Dict Json}

/-! ### Walks -/

/-- A property that does not fail: its value is parsed, or it is left out as it may be. -/
inductive Passable (d : Direction) (fields : Dict Json) (p : Property Schema) : Prop
  | parsed {j r : Json} (hread : fields.get? (d.readKey p) = some j)
      (hparse : p.schema.parse d j = .ok r) : Passable d fields p
  | omitted (hread : fields.get? (d.readKey p) = some .null) (homit : p.schema.omitsNull) :
      Passable d fields p
  | absent (hread : fields.get? (d.readKey p) = none) (hoptional : p.optional) :
      Passable d fields p

/-- The path leads from the first schema and value to the second, past elements and properties that
do not fail. -/
inductive Leads (d : Direction) : Schema → Json → List Segment → Schema → Json → Prop
  | here {s : Schema} {j : Json} : Leads d s j [] s j
  | column {select insert update t : Schema} {j w : Json} {path : List Segment}
      (inner : Leads d select j path t w) : Leads d (.column select insert update) j path t w
  | index {item t : Schema} {before after : List Json} {j w : Json} {path : List Segment}
      (hbefore : ∀ i ∈ before, ∃ r, item.parse d i = .ok r) (inner : Leads d item j path t w) :
      Leads d (.array item) (.array (before ++ j :: after)) (.index before.length :: path) t w
  | key {before after : List (Property Schema)} {p : Property Schema} {fields : Dict Json}
      {t : Schema} {j w : Json} {path : List Segment}
      (hbefore : ∀ q ∈ before, Passable d fields q)
      (hread : fields.get? (d.readKey p) = some j) (hkept : ¬ (j.isNull ∧ p.schema.omitsNull))
      (inner : Leads d p.schema j path t w) :
      Leads d (.struct (before ++ p :: after)) (.object fields) (.key p.name :: path) t w

/-- Parsing fails at this place, for the given reason, and the path of the error is `last`: it is
empty if the schema rejects the value as a whole, and names the field if one is missing. -/
inductive FailsAt (d : Direction) : Schema → Json → List Segment → Issue → Prop
  | type {t : Schema} {w : Json} (hparse : t.parse d w = .error ⟨[], .type t w⟩) :
      FailsAt d t w [] (.type t w)
  | missing {before after : List (Property Schema)} {p : Property Schema} {fields : Dict Json}
      (hbefore : ∀ q ∈ before, Passable d fields q)
      (hread : fields.get? (d.readKey p) = none) (hrequired : p.optional = false) :
      FailsAt d (.struct (before ++ p :: after)) (.object fields) [.key p.name] .missing

/-- The error names the place to which a walk leads, and the reason why parsing fails there. -/
def FirstFault (d : Direction) (s : Schema) (j : Json) (e : ParseError) : Prop :=
  ∃ walked last t w,
    e.path = walked ++ last ∧ Leads d s j walked t w ∧ FailsAt d t w last e.issue

theorem passable_iff : Passable d fields p ↔ ∃ o, readField d p fields = .ok o := by
  constructor
  · rintro (⟨hread, hparse⟩ | ⟨hread, homit⟩ | ⟨hread, hoptional⟩)
    case parsed j r =>
      by_cases homit : j.isNull ∧ p.schema.omitsNull
      · exact ⟨none, readField_of_omitted hread homit⟩
      · exact ⟨some r, (readField_of_present_eq_ok_iff hread homit).mpr ⟨r, hparse, rfl⟩⟩
    · exact ⟨none, readField_of_omitted hread ⟨rfl, homit⟩⟩
    · exact ⟨none, by rw [readField_of_absent hread, if_pos hoptional]⟩
  · rintro ⟨o, h⟩
    cases hread : fields.get? (d.readKey p) with
    | none =>
      by_cases hoptional : p.optional
      · exact .absent hread hoptional
      · rw [readField_of_absent hread, if_neg hoptional] at h
        cases h
    | some j =>
      by_cases homit : j.isNull ∧ p.schema.omitsNull
      · obtain rfl := Json.isNull_iff.mp homit.1
        exact .omitted hread homit.2
      · obtain ⟨r, hparse, -⟩ := (readField_of_present_eq_ok_iff hread homit).mp h
        exact .parsed hread hparse

/-! ### The first failure of a list -/

/-- A list is split at its head or behind it. -/
theorem exists_split_cons_iff {α : Type} {a : α} {rest : List α} {P : List α → α → Prop} :
    (∃ before x after, a :: rest = before ++ x :: after ∧ P before x) ↔
      P [] a ∨ ∃ before x after, rest = before ++ x :: after ∧ P (a :: before) x := by
  constructor
  · rintro ⟨before, x, after, hsplit, h⟩
    cases before with
    | nil =>
      obtain ⟨rfl, -⟩ := List.cons.inj hsplit
      exact Or.inl h
    | cons b before =>
      obtain ⟨rfl, hrest⟩ := List.cons.inj hsplit
      exact Or.inr ⟨before, x, after, hrest, h⟩
  · rintro (h | ⟨before, x, after, rfl, h⟩)
    · exact ⟨[], a, rest, rfl, h⟩
    · exact ⟨a :: before, x, after, rfl, h⟩

theorem map_eq_error_iff {α β : Type} {f : α → β} {x : Except ParseError α} :
    x.map f = .error e ↔ x = .error e := by
  cases x <;> simp [Except.map]

theorem parseItems_eq_error_iff {item : Json → Except ParseError Json} {n : Nat}
    {items : List Json} :
    parseItems item n items = .error e ↔
      ∃ before j after, items = before ++ j :: after ∧ (∀ i ∈ before, ∃ r, item i = .ok r) ∧
        ∃ e', item j = .error e' ∧ e = e'.within (.index (n + before.length)) := by
  induction items generalizing n with
  | nil => simp [parseItems]
  | cons j rest ih =>
    rw [parseItems_cons, exists_split_cons_iff]
    simp only [List.forall_mem_cons]
    cases hj : item j with
    | error e' => simp [eq_comm]
    | ok first =>
      -- The error is one of the others, whose indices are counted from the next one.
      simp [map_eq_error_iff, ih, Nat.add_comm, Nat.add_left_comm]

theorem readField_eq_error_iff :
    readField d p fields = .error e ↔
      (∃ j, fields.get? (d.readKey p) = some j ∧ ¬ (j.isNull ∧ p.schema.omitsNull) ∧
        ∃ e', p.schema.parse d j = .error e' ∧ e = e'.within (.key p.name)) ∨
      (fields.get? (d.readKey p) = none ∧ p.optional = false ∧ e = ⟨[.key p.name], .missing⟩) := by
  constructor
  · intro h
    cases hread : fields.get? (d.readKey p) with
    | none =>
      rw [readField_of_absent hread] at h
      cases hoptional : p.optional with
      | true => simp [hoptional] at h
      | false => exact Or.inr ⟨rfl, rfl, by simpa [hoptional, eq_comm] using h⟩
    | some j =>
      by_cases homit : j.isNull ∧ p.schema.omitsNull
      · rw [readField_of_omitted hread homit] at h
        cases h
      · rw [readField_of_present hread homit, map_eq_error_iff] at h
        cases hparse : p.schema.parse d j with
        | ok r => simp [hparse] at h
        | error e' =>
          exact Or.inl ⟨j, rfl, homit, e', hparse, by simpa [hparse, eq_comm] using h⟩
  · rintro (⟨j, hread, hkept, e', hparse, rfl⟩ | ⟨hread, hrequired, rfl⟩)
    · rw [readField_of_present hread hkept, hparse]
      rfl
    · rw [readField_of_absent hread, hrequired]
      rfl

theorem parseFields_eq_error_iff :
    parseFields d ps fields = .error e ↔
      ∃ before p after, ps = before ++ p :: after ∧ (∀ q ∈ before, Passable d fields q) ∧
        readField d p fields = .error e := by
  induction ps with
  | nil => simp [parseFields]
  | cons p rest ih =>
    rw [parseFields_cons, exists_split_cons_iff]
    simp only [passable_iff, List.forall_mem_cons]
    cases hp : readField d p fields with
    | error e' => simp
    | ok o =>
      cases o with
      | none => simp [ih, passable_iff]
      | some r => simp [map_eq_error_iff, ih, passable_iff]

/-! ### Errors are first faults -/

namespace FirstFault

theorem column {select insert update : Schema} (h : FirstFault d select j e) :
    FirstFault d (.column select insert update) j e := by
  obtain ⟨walked, last, t, w, hpath, hleads, hfails⟩ := h
  exact ⟨walked, last, t, w, hpath, .column hleads, hfails⟩

theorem index {item : Schema} {before after : List Json}
    (hbefore : ∀ i ∈ before, ∃ r, item.parse d i = .ok r) (h : FirstFault d item j e) :
    FirstFault d (.array item) (.array (before ++ j :: after))
      (e.within (.index before.length)) := by
  obtain ⟨walked, last, t, w, hpath, hleads, hfails⟩ := h
  exact ⟨.index before.length :: walked, last, t, w, congrArg (_ :: ·) hpath,
    .index hbefore hleads, hfails⟩

theorem key {before after : List (Property Schema)}
    (hbefore : ∀ q ∈ before, Passable d fields q)
    (hread : fields.get? (d.readKey p) = some j) (hkept : ¬ (j.isNull ∧ p.schema.omitsNull))
    (h : FirstFault d p.schema j e) :
    FirstFault d (.struct (before ++ p :: after)) (.object fields) (e.within (.key p.name)) := by
  obtain ⟨walked, last, t, w, hpath, hleads, hfails⟩ := h
  exact ⟨.key p.name :: walked, last, t, w, congrArg (_ :: ·) hpath,
    .key hbefore hread hkept hleads, hfails⟩

/-- The field that a record lacks is its first fault if no property before it fails. -/
theorem missing {before after : List (Property Schema)}
    (hbefore : ∀ q ∈ before, Passable d fields q) (hread : fields.get? (d.readKey p) = none)
    (hrequired : p.optional = false) :
    FirstFault d (.struct (before ++ p :: after)) (.object fields) ⟨[.key p.name], .missing⟩ :=
  ⟨[], _, _, _, rfl, .here, .missing hbefore hread hrequired⟩

/-- A value that the schema rejects as a whole is its own first fault. -/
theorem whole (hwhole : s.parse d j = .error (.mismatch s j)) (h : s.parse d j = .error e) :
    FirstFault d s j e := by
  obtain rfl : ParseError.mismatch s j = e := Except.error.inj (hwhole.symm.trans h)
  exact ⟨[], [], s, j, rfl, .here, .type hwhole⟩

end FirstFault

/-- By induction on the schema: the error of an element or of a property is its first fault, and it
is the first fault of the whole because nothing before it fails. -/
theorem firstFault_of_parse (h : s.parse d j = .error e) : FirstFault d s j e := by
  induction s generalizing j e with
  | atom a =>
    cases ha : a.accepts j with
    | true => simp [parse, ha] at h
    | false => exact .whole (by simp [parse, ha]) h
  | array item ih =>
    cases j with
    | array items =>
      rw [parse, map_eq_error_iff, parseItems_eq_error_iff] at h
      obtain ⟨before, j, after, rfl, hbefore, e, hparse, rfl⟩ := h
      rw [Nat.zero_add]
      exact (ih hparse).index hbefore
    | _ => exact .whole (by simp [parse]) h
  | union members ih =>
    -- The errors of the members are forgotten.
    cases hany : parseAny d members j with
    | some r => simp [parse, hany] at h
    | none => exact .whole (by simp [parse, hany]) h
  | struct ps ih =>
    cases j with
    | object fields =>
      rw [parse_struct_object, map_eq_error_iff, parseFields_eq_error_iff] at h
      obtain ⟨before, p, after, rfl, hbefore, hp⟩ := h
      rcases readField_eq_error_iff.mp hp with
        ⟨j, hread, hkept, e, hparse, rfl⟩ | ⟨hread, hrequired, rfl⟩
      · exact (ih p (by simp) hparse).key hbefore hread hkept
      · exact .missing hbefore hread hrequired
    | _ => exact .whole (by simp [parse]) h
  | column select insert update ih =>
    rw [parse_column] at h
    exact (ih h).column

theorem FailsAt.parse_eq_error {last : List Segment} {issue : Issue}
    (h : FailsAt d t w last issue) : t.parse d w = .error ⟨last, issue⟩ := by
  cases h with
  | type hparse => exact hparse
  | missing hbefore hread hrequired =>
    rw [parse_struct_object, map_eq_error_iff, parseFields_eq_error_iff]
    exact ⟨_, _, _, rfl, hbefore, readField_eq_error_iff.mpr (Or.inr ⟨hread, hrequired, rfl⟩)⟩

/-- An error travels back along a walk, because nothing before it on the way fails. -/
theorem Leads.parse_eq_error {walked : List Segment} (hleads : Leads d s j walked t w)
    (h : t.parse d w = .error e) : s.parse d j = .error ⟨walked ++ e.path, e.issue⟩ := by
  induction hleads with
  | here => exact h
  | column inner ih =>
    rw [parse_column]
    exact ih h
  | index hbefore inner ih =>
    rw [parse, map_eq_error_iff, parseItems_eq_error_iff]
    refine ⟨_, _, _, rfl, hbefore, _, ih h, ?_⟩
    rw [Nat.zero_add]
    rfl
  | key hbefore hread hkept inner ih =>
    rw [parse_struct_object, map_eq_error_iff, parseFields_eq_error_iff]
    exact ⟨_, _, _, rfl, hbefore,
      readField_eq_error_iff.mpr (Or.inl ⟨_, hread, hkept, _, ih h, rfl⟩)⟩

/-- **Errors point at the first fault.** Parsing fails with an error exactly if its path is a walk
to the place where parsing first fails, and its issue the reason: a schema that rejects the value
there as a whole, or a required field that is not in the record. -/
theorem parse_eq_error_iff : s.parse d j = .error e ↔ FirstFault d s j e := by
  constructor
  · exact firstFault_of_parse
  · rintro ⟨walked, last, t, w, hpath, hleads, hfails⟩
    rw [hleads.parse_eq_error hfails.parse_eq_error, ← hpath]

/-- The second of two orders has no date under the key of its column in the store. -/
example :
    (Schema.array (.struct [.required "id" (.atom .number),
        (Property.required "made" (.column (.atom .date) .never .never)).storedAs
          "made_at"])).decode
      (.array [.object [("id", .int 1), ("made_at", .string "2025-01-01T12:00:00Z")],
        .object [("id", .int 2), ("made", .null), ("made_at", .null)]]) =
      .error ⟨[.index 1, .key "made"], .type (.atom .date) .null⟩ := by
  decide

end RowSchema.Schema
