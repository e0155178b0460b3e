import RowSchema.Proofs.ModelSchema.Views

/-!
# Values in columns

All three views describe a column by the same type of values, some of them beside `undefined`, and
let it be left out or not. This module says what becomes of a single value under such a
description. Decoding and encoding do the same with it, so nothing here depends on the direction.

## Main definitions

* `Schema.orAbsent` — a type of values, beside `undefined` or alone
* `Schema.Passes` — what a column passes on of the value it is given, if it is given one

## Main results

* `Schema.IsValueType.readField_eq_ok_iff` — reading a property is passing on its value
* `Datamodel.Field.readSchema_eq`, `insertSchema_eq`, `updateSchema_eq` — the types of a column
  differ in nothing but `undefined`
-/

namespace RowSchema

namespace Schema

/-- The type of values `s`, beside `undefined` if values may be `absent`. -/
def orAbsent (s : Schema) (absent : Bool) : Schema :=
  if absent then .union [s, .undefined] else s

/-- What a column with values of the type `s` passes on. A value of `s` is passed on as it is. A
`null` that is no value of `s` says that there is none, if values may be `absent`. Being given
nothing, the column passes nothing on, if it is `optional`. -/
inductive Passes (s : Schema) (absent optional : Bool) : Option Json → Option Json → Prop where
  | value {j : Json} (h : s.decode j = .ok j) : Passes s absent optional (some j) (some j)
  | omitted (habsent : absent = true) (hs : s ≠ .unknown) :
      Passes s absent optional (some .null) none
  | missing (hoptional : optional = true) : Passes s absent optional none none

variable {s : Schema} {absent optional : Bool} {j r : Json} {given passed : Option Json}

namespace Passes

/-- A value that is passed on was given, and is a value of the type. -/
theorem of_some (h : s.Passes absent optional given (some j)) :
    given = some j ∧ s.decode j = .ok j := by
  cases h with
  | value h => exact ⟨rfl, h⟩

/-- A value of the type is passed on. -/
theorem eq_some (hs : s.IsValueType) (h : s.Passes absent optional (some j) passed)
    (hj : s.decode j = .ok j) : passed = some j := by
  cases h with
  | value h => rfl
  | omitted _ hne => exact absurd (hs.decode_null_iff.mp hj) hne

/-- What was passed on is passed on again, by a column that is optional where values may be absent
in the first one. -/
theorem again (h : s.Passes absent false given passed) (absent' : Bool) {optional' : Bool}
    (himp : absent = true → optional' = true) : s.Passes absent' optional' passed passed := by
  cases h with
  | value hj => exact .value hj
  | omitted habsent _ => exact .missing (himp habsent)
  | missing hoptional => cases hoptional

end Passes

/-- A column passes a `null` on where every value is one of the type. -/
theorem passes_null (hs : s.IsValueType) (optional : Bool) :
    ∃ passed, s.Passes true optional (some .null) passed := by
  by_cases hunknown : s = .unknown
  · exact ⟨some .null, .value (hs.decode_null_iff.mpr hunknown)⟩
  · exact ⟨none, .omitted rfl hunknown⟩

namespace IsValueType

variable {d : Direction}

theorem omitsNull_orAbsent (hs : s.IsValueType) (absent : Bool) :
    (s.orAbsent absent).omitsNull = (absent && decide (s ≠ .unknown)) := by
  cases absent with
  | true => rw [Bool.true_and]; exact hs.omitsNull_union_eq
  | false => rw [Bool.false_and]; exact hs.omitsNull_eq_false

/-- Both directions parse a value of a column as decoding does, to itself. -/
theorem parse_eq_ok_iff (hs : s.IsValueType) :
    s.parse d j = .ok r ↔ s.decode j = .ok j ∧ j = r := by
  rw [decode, parse_eq_of_holdsRecord_eq_false hs.holdsRecord_eq_false .decode d]
  constructor
  · intro h
    obtain rfl := eq_of_parse_of_holdsRecord_eq_false hs.holdsRecord_eq_false h
    exact ⟨h, rfl⟩
  · rintro ⟨h, rfl⟩
    exact h

/-- Beside `undefined` the only further value is `null`. -/
theorem parse_orAbsent_eq_ok_iff (hs : s.IsValueType) :
    (s.orAbsent absent).parse d j = .ok r ↔
      (s.decode j = .ok j ∨ absent = true ∧ j = .null) ∧ j = r := by
  cases absent with
  | false =>
    rw [orAbsent, if_neg Bool.false_ne_true, hs.parse_eq_ok_iff]
    simp
  | true =>
    rw [orAbsent, if_pos rfl, parse_union_eq_ok_iff]
    cases hj : s.parse d j with
    | ok r' =>
      obtain ⟨hvalue, rfl⟩ := hs.parse_eq_ok_iff.mp hj
      simp [hj, hvalue, Except.toOption]
    | error e =>
      have hnot : ¬ s.decode j = .ok j := fun h => by
        rw [hs.parse_eq_ok_iff.mpr ⟨h, rfl⟩] at hj
        cases hj
      rcases eq_or_ne j .null with rfl | hnull
      · simp [hj, Except.toOption, parse, Atom.accepts]
      · simp [hj, hnot, hnull, Except.toOption, parse, Atom.accepts]

/-- **Reading a property.** -/
theorem readField_eq_ok_iff (hs : s.IsValueType) {p : Property Schema}
    (hp : p.schema = s.orAbsent absent) {fields : Dict Json} :
    readField d p fields = .ok passed ↔
      s.Passes absent p.optional (fields.get? (d.readKey p)) passed := by
  have homits : p.schema.omitsNull = true ↔ absent = true ∧ s ≠ .unknown := by
    rw [hp, hs.omitsNull_orAbsent, Bool.and_eq_true, decide_eq_true_iff]
  cases hget : fields.get? (d.readKey p) with
  | none =>
    rw [readField_of_absent hget]
    constructor
    · intro h
      cases hoptional : p.optional with
      | true =>
        rw [hoptional, if_pos rfl] at h
        cases h
        exact .missing rfl
      | false => simp [hoptional] at h
    · rintro ⟨⟩
      rw [if_pos ‹_›]
  | some j =>
    by_cases homit : j.isNull ∧ p.schema.omitsNull
    · obtain ⟨habsent, hunknown⟩ := homits.mp homit.2
      obtain rfl := Json.isNull_iff.mp homit.1
      rw [readField_of_omitted hget homit]
      constructor
      · intro h
        cases h
        exact .omitted habsent hunknown
      · rintro (⟨hnull⟩ | _)
        · exact absurd (hs.decode_null_iff.mp hnull) hunknown
        · rfl
    · rw [readField_of_present_eq_ok_iff hget homit, hp]
      constructor
      · rintro ⟨r, hr, rfl⟩
        obtain ⟨hvalue | ⟨habsent, hnull⟩, rfl⟩ := hs.parse_orAbsent_eq_ok_iff.mp hr
        · exact .value hvalue
        · have hunknown : s = .unknown := by
            by_contra hne
            exact homit ⟨Json.isNull_iff.mpr hnull, homits.mpr ⟨habsent, hne⟩⟩
          exact .value (by rw [hnull, hs.decode_null_iff, hunknown])
      · rintro (hvalue | ⟨habsent, hunknown⟩)
        · exact ⟨j, hs.parse_orAbsent_eq_ok_iff.mpr ⟨Or.inl hvalue, rfl⟩, rfl⟩
        · exact absurd ⟨rfl, homits.mpr ⟨habsent, hunknown⟩⟩ homit

/-- A value of a column type is passed on, or is a `null` that says that there is none. -/
theorem exists_passes_of_decode (hs : s.IsValueType) (h : (s.orAbsent absent).decode j = .ok r)
    (optional : Bool) : ∃ passed, s.Passes absent optional (some j) passed := by
  obtain ⟨hvalue | ⟨rfl, rfl⟩, -⟩ := hs.parse_orAbsent_eq_ok_iff.mp h
  · exact ⟨some j, .value hvalue⟩
  · exact passes_null hs optional

end IsValueType

end Schema

/-! ### The types of a column -/

namespace Datamodel.Field

theorem readSchema_eq (f : Field) (enums : Registry) :
    f.readSchema enums = (f.valueSchema enums).orAbsent f.mayBeAbsent := rfl

theorem insertSchema_eq (f : Field) (enums : Registry) :
    f.insertSchema enums = (f.valueSchema enums).orAbsent f.mayBeLeftOut := by
  rw [insertSchema, mayBeLeftOut]
  cases hdefault : f.hasDefaultValue with
  | true => rw [if_pos rfl, readSchema_of_hasDefaultValue hdefault]; rfl
  | false =>
    rw [if_neg Bool.false_ne_true, readSchema_eq, mayBeAbsent, hdefault, Bool.not_false,
      Bool.and_true, Bool.false_or]

theorem updateSchema_eq (f : Field) (enums : Registry) :
    f.updateSchema enums = (f.valueSchema enums).orAbsent true := by
  rw [updateSchema, readSchema]
  cases f.mayBeAbsent <;> rfl

/-- What a row may be read without may be left out when it is inserted. -/
theorem mayBeLeftOut_of_mayBeAbsent {f : Field} (h : f.mayBeAbsent = true) :
    f.mayBeLeftOut = true := by
  rw [mayBeAbsent, Bool.and_eq_true] at h
  rw [mayBeLeftOut, h.1, Bool.or_true]

end Datamodel.Field

end RowSchema
